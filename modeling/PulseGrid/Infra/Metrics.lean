/-
  PulseGrid.Infra.Metrics

  The metrics registry of crates/infra/src/metrics.rs: counters, gauges, counters with one
  label and histograms, how they are registered and updated, and the text that
  `Registry::render` writes.
-/

import PulseGrid.Infra.Histogram
import PulseGrid.Lib.DashMap
import PulseGrid.Lib.RustStr
import PulseGrid.Lib.Transition

namespace PulseGrid.Infra

-- ============================================================================
-- Names and escapes
-- ============================================================================

def validName : List Char → Bool
  | [] => false
  | c :: cs =>
      (c.isAlpha || c = '_' || c = ':') && cs.all fun c => c.isAlphanum || c = '_' || c = ':'

def escapeLabelValue (v : List Char) : List Char :=
  RustStr.replace '\n' "\\n".toList
    (RustStr.replace '"' "\\\"".toList (RustStr.replace '\\' "\\\\".toList v))

def escapeHelp (v : List Char) : List Char :=
  RustStr.replace '\n' "\\n".toList (RustStr.replace '\\' "\\\\".toList v)

/-- `Display` of the integers. -/
def u64Text (n : UInt64) : List Char := Nat.toDigits 10 n.toNat

def i64Text (n : Int64) : List Char :=
  if n.toInt < 0 then '-' :: Nat.toDigits 10 n.toInt.natAbs else Nat.toDigits 10 n.toInt.natAbs

-- ============================================================================
-- Collectors
-- ============================================================================

/-- Counters distinguished by one label.  `Registry::counter_vec` has checked its name. -/
structure CounterVec where
  label : List Char
  values : DashMap (List Char) UInt64
  label_valid : validName label = true

/-- The order of the rows: by label value, then by count. -/
def RowLE (a b : List Char × UInt64) : Prop := a.1 < b.1 ∨ a.1 = b.1 ∧ a.2 ≤ b.2

instance : DecidableRel RowLE := fun a b =>
  inferInstanceAs (Decidable (a.1 < b.1 ∨ a.1 = b.1 ∧ a.2 ≤ b.2))

namespace CounterVec

def add (self : CounterVec) (labelValue : List Char) (n : UInt64) : CounterVec :=
  match self.values.get labelValue with
  | some count => { self with values := self.values.put labelValue (count + n) }
  | none => { self with values := self.values.put labelValue (0 + n) }

def inc (self : CounterVec) (labelValue : List Char) : CounterVec := self.add labelValue 1

def get (self : CounterVec) (labelValue : List Char) : UInt64 :=
  (self.values.get labelValue).getD 0

/-- The rows that `render` writes. -/
def rows (self : CounterVec) : List (List Char × UInt64) := self.values.iter.insertionSort RowLE

end CounterVec

inductive Collector where
  | counter (value : UInt64)
  | gauge (value : Int64)
  | counterVec (vec : CounterVec)
  | histogram (h : Histogram)

/-- The methods that change a collector. -/
inductive Update where
  | counterInc
  | counterAdd (n : UInt64)
  | gaugeSet (v : Int64)
  | gaugeInc
  | gaugeDec
  | gaugeAdd (n : Int64)
  | vecInc (labelValue : List Char)
  | vecAdd (labelValue : List Char) (n : UInt64)
  | observe (value : Float64)
deriving DecidableEq

namespace Collector

/-- `none` when the type of the collector has no such method. -/
def update : Collector → Update → Option Collector
  | .counter v, .counterInc => some (.counter (v + 1))
  | .counter v, .counterAdd n => some (.counter (v + n))
  | .gauge _, .gaugeSet v => some (.gauge v)
  | .gauge v, .gaugeInc => some (.gauge (v + 1))
  | .gauge v, .gaugeDec => some (.gauge (v - 1))
  | .gauge v, .gaugeAdd n => some (.gauge (v + n))
  | .counterVec vec, .vecInc labelValue => some (.counterVec (vec.inc labelValue))
  | .counterVec vec, .vecAdd labelValue n => some (.counterVec (vec.add labelValue n))
  | .histogram h, .observe value => some (.histogram (h.observe value))
  | _, _ => none

def kind : Collector → List Char
  | .counter _ => "counter".toList
  | .gauge _ => "gauge".toList
  | .counterVec _ => "counter".toList
  | .histogram _ => "histogram".toList

/-- `{name}{{label="quoted"}} text`. -/
def labelled (name label quoted text : List Char) : List Char :=
  name ++ '{' :: (label ++ '=' :: '"' :: (quoted ++ '"' :: '}' :: ' ' :: text))

/-- The lines that `render` writes. -/
def lines (name : List Char) : Collector → List (List Char)
  | .counter v => [name ++ ' ' :: u64Text v]
  | .gauge v => [name ++ ' ' :: i64Text v]
  | .counterVec vec => vec.rows.map fun row =>
      labelled name vec.label (escapeLabelValue row.1) (u64Text row.2)
  | .histogram h =>
      h.render.buckets.map (fun row =>
        labelled (name ++ "_bucket".toList) "le".toList row.1.display (u64Text row.2)) ++
      [labelled (name ++ "_bucket".toList) "le".toList "+Inf".toList (u64Text h.render.inf),
        name ++ "_sum".toList ++ ' ' :: h.render.sum.display,
        name ++ "_count".toList ++ ' ' :: u64Text h.render.count]

end Collector

-- ============================================================================
-- The registry
-- ============================================================================

structure Entry where
  name : List Char
  help : List Char
  collector : Collector
  name_valid : validName name = true

/-- The metrics in the order of their registration, each name once. -/
structure Registry where
  entries : List Entry
  names_nodup : (entries.map Entry.name).Nodup

namespace Registry

/-- `Registry::new`. -/
def empty : Registry := ⟨[], List.nodup_nil⟩

/-- `register`: `none` when an `assert!` fails. -/
def register (self : Registry) (name help : List Char) (collector : Collector) :
    Option Registry :=
  if h : validName name = true ∧ name ∉ self.entries.map Entry.name then
    some {
      entries := self.entries ++ [{ name, help, collector, name_valid := h.1 }]
      names_nodup := by
        rw [List.map_append, List.nodup_append]
        refine ⟨self.names_nodup, List.nodup_singleton _, ?_⟩
        intro a ha b hb heq
        have hname : a = name := by rw [heq, List.mem_singleton.mp hb]
        exact h.2 (hname ▸ ha) }
  else none

/-- A call of a method on the metric with the given number. -/
def update (self : Registry) (metric : Nat) (u : Update) : Option Registry :=
  match h : self.entries[metric]? with
  | some entry =>
      (entry.collector.update u).map fun collector => {
        entries := self.entries.set metric { entry with collector }
        names_nodup := by
          obtain ⟨hlt, hentry⟩ := List.getElem?_eq_some_iff.mp h
          have hsame : (self.entries.set metric { entry with collector }).map Entry.name =
              self.entries.map Entry.name := by
            rw [List.map_set, ← hentry]
            apply List.ext_getElem
            · simp
            · intro i _ _
              rw [List.getElem_set]
              split
              · next heq => simp [heq]
              · rfl
          rw [hsame]
          exact self.names_nodup }
  | none => none

inductive Call where
  | counter (name help : List Char)
  | gauge (name help : List Char)
  | counterVec (name help label : List Char)
  | histogram (name help : List Char) (bounds : List Float64)
  | update (metric : Nat) (u : Update)

/-- One call; `none` when it panics. -/
def apply (self : Registry) : Call → Option Registry
  | .counter name help => self.register name help (.counter 0)
  | .gauge name help => self.register name help (.gauge 0)
  | .counterVec name help label =>
      if h : validName label = true then
        self.register name help (.counterVec { label, values := ∅, label_valid := h })
      else none
  | .histogram name help bounds =>
      (Histogram.new bounds).bind fun h => self.register name help (.histogram h)
  | .update metric u => self.update metric u

/-- Calls one after another. -/
def run (calls : List Call) : Option Registry := Transition.run apply empty calls

end Registry

namespace Entry

def lines (e : Entry) : List (List Char) :=
  ("# HELP ".toList ++ e.name ++ ' ' :: escapeHelp e.help) ::
  ("# TYPE ".toList ++ e.name ++ ' ' :: e.collector.kind) ::
  e.collector.lines e.name

end Entry

/-- `Registry::render`. -/
def Registry.render (self : Registry) : List Char :=
  (self.entries.flatMap Entry.lines).flatMap fun line => line ++ ['\n']

end PulseGrid.Infra
