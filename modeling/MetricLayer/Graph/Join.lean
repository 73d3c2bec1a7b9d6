import MetricLayer.Graph.Basic
/-!
# Join paths

Relationships make the models a directed graph whose edges carry the join keys. Every declared
relationship gives an edge from the declaring model to its target; every such edge also gives
the reverse edge, with the keys swapped and the kind reversed, unless that pair of models
already has an edge. Edges to models not registered yet are left out until they are.

`Graph.findPath` is a breadth-first search that follows each model's outgoing edges in the
order they were made, so it returns a shortest path, the first one in that order.
`Graph.joinTree` joins a root to several targets by merging their paths.
-/

namespace MetricLayer

/-- One join between two models: `source.sourceKey = target.targetKey`. -/
structure JoinStep where
  source : String
  target : String
  sourceKey : String
  targetKey : String
  kind : RelationshipKind
  deriving Repr, DecidableEq, Inhabited

namespace JoinStep

/-- A join that can match several target rows per source row. -/
def fansOut (s : JoinStep) : Bool := s.kind == .oneToMany

/-- The same join walked the other way. -/
def reversed (s : JoinStep) : JoinStep :=
  ⟨s.target, s.source, s.targetKey, s.sourceKey, s.kind.reversed⟩

end JoinStep

/-- A sequence of joins. -/
structure JoinPath where
  steps : List JoinStep
  deriving Repr, DecidableEq, Inhabited

namespace JoinPath

/-- Whether some join of the path fans out. -/
def fansOut (p : JoinPath) : Bool := p.steps.any (·.fansOut)

/-- The models of the path in order of appearance, each once. -/
def models (p : JoinPath) : List String :=
  p.steps.foldl (fun acc s =>
    let acc := if acc.contains s.source then acc else acc ++ [s.source]
    if acc.contains s.target then acc else acc ++ [s.target]) []

end JoinPath

namespace Graph

/-- The edge a relationship declares. Many-to-one joins the foreign key to the target's key;
one-to-many and one-to-one join the declaring model's key to the foreign key. -/
def declaredEdge (m : Model) (r : Relationship) (t : Model) : JoinStep :=
  let fk := r.foreignKeyColumn m.name
  match r.kind with
  | .manyToOne => ⟨m.name, t.name, fk, r.primaryKey.getD t.primaryKey, .manyToOne⟩
  | kind => ⟨m.name, t.name, r.primaryKey.getD m.primaryKey, fk, kind⟩

/-- The declared edges, by model and then by relationship, to registered targets only. -/
def declaredEdges (g : Graph) : List JoinStep :=
  g.models.flatMap fun m => m.relationships.filterMap fun r =>
    (g.model? r.name).map (declaredEdge m r)

/-- All edges in the order they are made: the declared ones, then the reverse of each declared
edge whose pair of models has no edge yet. -/
def edges (g : Graph) : List JoinStep :=
  let declared := g.declaredEdges
  let pairs := declared.map fun e => (e.source, e.target)
  let (added, _) := declared.foldl (fun (acc : List JoinStep × List (String × String)) e =>
    let (added, pairs) := acc
    let r := e.reversed
    if pairs.contains (r.source, r.target) then acc
    else (added ++ [r], pairs ++ [(r.source, r.target)])) ([], pairs)
  declared ++ added

/-- The outgoing edges of a node, examined in order: each target not yet visited is marked and
queued with the path that reached it; the goal ends the search with its path. -/
def expand (goal : String) (path : List JoinStep) :
    List JoinStep → List (String × List JoinStep) → List String →
      List JoinStep ⊕ (List (String × List JoinStep) × List String)
  | [], queue, visited => .inr (queue, visited)
  | e :: es, queue, visited =>
    if visited.contains e.target then expand goal path es queue visited
    else if e.target == goal then .inl (path ++ [e])
    else expand goal path es (queue ++ [(e.target, path ++ [e])]) (visited ++ [e.target])

/-- Breadth-first search for `goal`. The queue holds nodes with the path that reached them;
a node is marked visited when it is queued, so each node is expanded at most once and
`fuel` = the number of nodes is enough. -/
def search (edges : List JoinStep) (goal : String) :
    Nat → List (String × List JoinStep) → List String → Option (List JoinStep)
  | 0, _, _ => none
  | _, [], _ => none
  | fuel + 1, (node, path) :: queue, visited =>
    match expand goal path (edges.filter (·.source == node)) queue visited with
    | .inl found => some found
    | .inr (queue, visited) => search edges goal fuel queue visited

/-- A shortest join path between two registered models. -/
def findPath (g : Graph) (source target : String) : Except Error JoinPath := do
  let _ ← g.getModel source
  let _ ← g.getModel target
  if source == target then return ⟨[]⟩
  match search g.edges target (g.models.length + 1) [(source, [])] [source] with
  | some steps => pure ⟨steps⟩
  | none => throw (.noPath source target)

/-- Whether two models can be joined. -/
def hasPath (g : Graph) (source target : String) : Bool :=
  match g.findPath source target with
  | .ok _ => true
  | .error _ => false

/-- The joins from `root` to every target: the shortest path to each target not reached yet,
keeping the steps that reach a new model. -/
def joinTree (g : Graph) (root : String) (targets : List String) : Except Error JoinPath := do
  let (steps, _) ← targets.foldlM (fun (acc : List JoinStep × List String) t => do
    let (steps, reached) := acc
    if reached.contains t then pure acc
    else
      let p ← g.findPath root t
      pure (p.steps.foldl (fun (acc : List JoinStep × List String) s =>
        let (steps, reached) := acc
        if reached.contains s.target then acc else (steps ++ [s], reached ++ [s.target]))
        (steps, reached))) ([], [root])
  pure ⟨steps⟩

end Graph

end MetricLayer
