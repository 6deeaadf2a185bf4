import Mathlib.Data.List.Basic

/-!
# Payloads shipped to the metrics intake

The JSON types of `datadog/series.rs` and the part of the sketch protobuf messages that the
aggregator fills in. `V` is the type of metric values and `B` the encoded body of a sketch.
-/
namespace ServerlessComponents.Dogstatsd

/-- A single point in time. -/
structure Point (V : Type) where
  timestamp : Nat
  value : V
  deriving DecidableEq, Repr

/-- A named resource; `kind` is serialised under the JSON name `type`. -/
structure Resource where
  name : String
  kind : String
  deriving DecidableEq, Repr

/-- The fields of a resource in JSON. -/
def Resource.fields (resource : Resource) : List (String × String) :=
  [("name", resource.name), ("type", resource.kind)]

/-- The kinds of metrics the intake supports. -/
inductive DdMetricKind where
  | count
  | gauge
  deriving DecidableEq, Repr

structure OriginToShip where
  originProduct : Nat
  originSubProduct : Nat
  originProductDetail : Nat
  deriving DecidableEq, Repr

structure Metadata where
  origin : Option OriginToShip
  deriving DecidableEq, Repr

/-- `datadog::Metric`: one series with its single point. -/
structure MetricToShip (V : Type) where
  metric : String
  point : Point V
  resources : List Resource
  kind : DdMetricKind
  tags : List String
  metadata : Option Metadata
  deriving DecidableEq, Repr

/-- A collection of metrics, shipped as one request body. -/
structure Series (V : Type) where
  series : List (MetricToShip V)
  deriving DecidableEq, Repr

/-- The protobuf `Origin` that `find_origin` builds. -/
structure Origin where
  originProduct : Nat
  originService : Nat
  originCategory : Nat
  deriving DecidableEq, Repr

/-- The protobuf `Dogsketch`: a timestamp and the encoded sketch. -/
structure Dogsketch (B : Type) where
  ts : Int
  body : B
  deriving DecidableEq, Repr

/-- The protobuf `Sketch`. -/
structure Sketch (B : Type) where
  metric : String
  dogsketches : List (Dogsketch B)
  tags : List String
  metadata : Option Origin
  deriving DecidableEq, Repr

/-- The protobuf `SketchPayload`, one request body. -/
structure SketchPayload (B : Type) where
  sketches : List (Sketch B)
  deriving DecidableEq, Repr

end ServerlessComponents.Dogstatsd
