import MetricLayer.Schema.Model
import MetricLayer.Schema.RefToken
/-!
# Choosing a rollup

A query on one model may be answered from one of its rollups. Each rollup is checked against
the query, always in this order: its stored dimensions cover the query's plain dimensions; its
grain can be truncated to every requested grain; every requested metric is stored and can be
aggregated again (sums, counts, minima and maxima; averages only with a count to weigh them);
the filters read stored columns only and there are no segments; and every truncated dimension is
the rollup's time dimension. A rollup passing all five checks is a match.

Matches are scored (`Rollup.score`): an exact set of stored dimensions counts most, each
unneeded stored dimension costs, and a stored grain equal to the requested one is preferred to a
finer one. The first match with the highest score is selected.
-/

namespace MetricLayer.Rollup

open MetricLayer.Text

/-- What a query asks of one model, in terms of its own fields. -/
structure RoutingRequest where
  metrics : List String
  /-- Dimension names, each with the grain it is truncated to. -/
  dimensions : List (String × Option Granularity)
  filters : List String
  segments : List String
  deriving Inhabited

namespace RoutingRequest

/-- The requested grain that decides the grain preference: the one on the rollup's time
dimension, else the first requested grain. -/
def granularityFor (r : RoutingRequest) (p : PreAggregation) : Option Granularity :=
  (r.dimensions.findSome? fun (name, grain) =>
    match p.timeDimension, grain with
    | some td, some g => if td == name then some g else none
    | _, _ => none) <|> r.dimensions.findSome? (·.2)

/-- The dimensions requested without a grain. -/
def plainDimensions (r : RoutingRequest) : List String :=
  (r.dimensions.filter (·.2.isNone)).map (·.1)

end RoutingRequest

/-- The outcome of one check of a rollup. -/
structure Check where
  name : String
  passed : Bool
  detail : String
  deriving Repr, DecidableEq, Inhabited

/-- `[pass] name: detail`, or `[FAIL] …`. -/
def Check.text (c : Check) : String :=
  "[" ++ (if c.passed then "pass" else "FAIL") ++ "] " ++ c.name ++ ": " ++ c.detail

/-- A rollup as considered for a query. -/
structure Candidate where
  name : String
  matched : Bool
  /-- The score of a match. -/
  score : Option Int
  selected : Bool
  checks : List Check
  deriving Repr, DecidableEq, Inhabited

/-- The first line describing a candidate. -/
def Candidate.label (c : Candidate) : String :=
  let score := toString (c.score.getD 0)
  if c.selected then c.name ++ " (score: " ++ score ++ ", selected)"
  else if c.matched then c.name ++ " (score: " ++ score ++ ")"
  else c.name ++ " (not matched)"

/-- A candidate and its checks, one per indented line. -/
def Candidate.text (c : Candidate) : String :=
  c.label ++ String.join (c.checks.map fun k => "\n    " ++ k.text)

/-- The result of routing: every candidate, why, and the index of the selected one. -/
structure Decision where
  candidates : List Candidate
  reason : String
  selected : Option Nat
  deriving Repr, DecidableEq, Inhabited

namespace Decision

/-- A decision to read the raw rows. -/
def raw (reason : String) : Decision := ⟨[], reason, none⟩

/-- The selected candidate. -/
def selectedCandidate? (d : Decision) : Option Candidate := d.selected.bind fun i => d.candidates[i]?

/-- The same candidates kept for the record, none selected. -/
def reportOnly (d : Decision) (reason : String) : Decision :=
  ⟨d.candidates.map fun c => { c with selected := false }, reason, none⟩

end Decision

/-- A count measure stored in the rollup to weigh an average with: `count_<x>` for `avg_<x>`,
the name with `_avg` replaced by `_count`, a measure named `count`, else the first stored
measure that is a count metric of the model. -/
def countMeasure (model : Model) (avg : Metric) (p : PreAggregation) : Option String :=
  let stored (name : String) : Option String := p.measures.find? (· == name)
  let byPrefix := if avg.name.startsWith "avg_" then stored ("count_" ++ (avg.name.drop 4).toString) else none
  let bySuffix := if containsText avg.name "_avg" then stored (replaceAll avg.name "_avg" "_count") else none
  byPrefix <|> bySuffix <|> stored "count" <|>
    p.measures.find? fun x => ((model.metric? x).map (·.agg == some .count)).getD false

/-- Whether a stored metric can be aggregated again, or why not. -/
def derivable (model : Model) (m : Metric) (p : PreAggregation) : Except String Unit :=
  if !m.isAggregate then .error s!"'{m.name}' is not a simple aggregation"
  else match m.agg with
    | some .sum | some .count | some .min | some .max => .ok ()
    | some .avg =>
      if (countMeasure model m p).isSome then .ok ()
      else .error s!"'{m.name}' needs a count measure in the rollup"
    | some agg => .error s!"'{m.name}' uses {agg.name}, which cannot be re-aggregated"
    | none => .error s!"'{m.name}' has no aggregation"

/-- The plain dimensions are stored. -/
def dimensionCoverage (p : PreAggregation) (r : RoutingRequest) : Check :=
  let missing := r.plainDimensions.filter fun x => !p.dimensions.contains x
  if missing.isEmpty then ⟨"dimension coverage", true, "all dimensions stored"⟩
  else ⟨"dimension coverage", false, "missing " ++ ", ".intercalate missing⟩

/-- The stored grain can be truncated to every requested grain. -/
def granularityCompatibility (p : PreAggregation) (r : RoutingRequest) : Check :=
  let name := "granularity compatibility"
  let grains := r.dimensions.filterMap (·.2)
  match grains, p.granularity with
  | [], _ => ⟨name, true, "no time grain requested"⟩
  | _, none => ⟨name, false, "rollup has no time grain"⟩
  | g0 :: _, some stored =>
    match grains.find? (fun g => !stored.canRollUpTo g) with
    | some g => ⟨name, false, s!"{stored.name} rollup cannot serve {g.name} queries"⟩
    | none => ⟨name, true, s!"{g0.name} rolls up from {stored.name}"⟩

/-- Every requested metric is stored and can be aggregated again. -/
def metricCoverage (model : Model) (p : PreAggregation) (r : RoutingRequest) : Check :=
  let name := "metric coverage"
  let problem := r.metrics.findSome? fun x =>
    match model.metric? x with
    | none => some s!"'{x}' is not a metric of '{model.name}'"
    | some m =>
      if !p.measures.contains x then some s!"'{x}' is not stored in the rollup"
      else match derivable model m p with
        | .error detail => some detail
        | .ok _ => none
  match problem with
  | some detail => ⟨name, false, detail⟩
  | none => ⟨name, true, s!"all {r.metrics.length} metric(s) derivable"⟩

/-- Whether a filter's `owner.field` can be read from the rollup, or why not. -/
def storedFilterField (model : Model) (p : PreAggregation) (owner field : String) :
    Except String Unit :=
  if owner != model.name then .error s!"filter reads '{owner}.{field}' outside '{model.name}'"
  else if (model.metric? field).isSome then .error s!"filter on metric '{field}' needs raw rows"
  else
    let (name, grain) := match splitOnce field "__" with
      | some (n, g) => (n, some g)
      | none => (field, none)
    if p.timeDimension == some name then
      match grain with
      | none => .error s!"filter compares raw '{name}'; use '{name}__<grain>' to filter the rollup"
      | some g =>
        let servable := match Granularity.ofName? g, p.granularity with
          | some q, some stored => stored.canRollUpTo q
          | _, _ => false
        if servable then .ok () else .error s!"filter grain '{field}' is finer than the rollup"
    else if grain.isNone && p.dimensions.contains name then .ok ()
    else .error s!"filter column '{field}' is not stored in the rollup"

/-- The filters read stored columns only, and there are no segments. -/
def filterCompatibility (model : Model) (p : PreAggregation) (r : RoutingRequest) : Check :=
  let name := "filter compatibility"
  match r.segments with
  | s :: _ => ⟨name, false, s!"segment '{s}' is not stored in rollups"⟩
  | [] =>
    if r.filters.isEmpty then ⟨name, true, "no filters"⟩
    else
      let problem := r.filters.findSome? fun f => (RefToken.scan f).findSome? fun t =>
        match splitOnce t.name "." with
        | none => none
        | some (owner, field) =>
          match storedFilterField model p owner field with
          | .error detail => some detail
          | .ok _ => none
      match problem with
      | some detail => ⟨name, false, detail⟩
      | none => ⟨name, true, "filter columns stored"⟩

/-- Every truncated dimension is the rollup's time dimension. -/
def timeGrainAlignment (p : PreAggregation) (r : RoutingRequest) : Check :=
  let name := "time-grain alignment"
  let problem := r.dimensions.findSome? fun (dim, grain) =>
    if grain.isNone || p.timeDimension == some dim then none
    else some (match p.timeDimension with
      | some td => s!"'{dim}' is not the rollup time dimension '{td}'"
      | none => s!"rollup has no time dimension for '{dim}'")
  match problem with
  | some detail => ⟨name, false, detail⟩
  | none => ⟨name, true, "time dimensions aligned"⟩

/-- The five checks of a rollup, in order. -/
def checks (model : Model) (p : PreAggregation) (r : RoutingRequest) : List Check :=
  [dimensionCoverage p r, granularityCompatibility p r, metricCoverage model p r,
    filterCompatibility model p r, timeGrainAlignment p r]

/-- The preference for a matching rollup: 1000 for storing exactly the plain dimensions other
than its time dimension, 10 less per other stored dimension, 100 for the requested grain
itself, 5 less per grain level between the requested grain and a different stored one. -/
def score (p : PreAggregation) (r : RoutingRequest) : Int :=
  let queryDims := r.plainDimensions.filter fun x => p.timeDimension != some x
  let extra : Int := (p.dimensions.filter fun x => !queryDims.contains x).length
  let exact := extra == 0 && queryDims.all fun x => p.dimensions.contains x
  let base := (if exact then 1000 else 0) - extra * 10
  match r.granularityFor p, p.granularity with
  | some q, some stored =>
    if q == stored then base + 100
    else base - (((q.level : Int) - (stored.level : Int)).natAbs : Int) * 5
  | _, _ => base

/-- The index and score of the first best match among scored candidates. -/
def best (cs : List Candidate) : Option (Nat × Int) :=
  (cs.zipIdx.foldl (fun (acc : Option (Nat × Int)) (c, i) =>
    match c.score, acc with
    | some s, some (_, top) => if top >= s then acc else some (i, s)
    | some s, none => some (i, s)
    | none, _ => acc) none)

/-- Checks every rollup of a model against a request and selects the first best match. -/
def route (model : Model) (r : RoutingRequest) : Decision :=
  if model.preAggregations.isEmpty then .raw s!"model '{model.name}' has no pre-aggregations"
  else
    let cs := model.preAggregations.map fun p =>
      let ks := checks model p r
      let matched := ks.all (·.passed)
      ({ name := p.name, matched := matched, score := if matched then some (score p r) else none,
         selected := false, checks := ks } : Candidate)
    match best cs with
    | some (i, s) =>
      let cs := cs.zipIdx.map fun (c, j) => if j == i then { c with selected := true } else c
      let name := (cs[i]?.map (·.name)).getD ""
      ⟨cs, s!"pre-aggregation '{name}' covers the query (score: {s})", some i⟩
    | none => ⟨cs, s!"no pre-aggregation matched ({cs.length} evaluated)", none⟩

end MetricLayer.Rollup
