import ClusterBilling.Arithmetic
import ClusterBilling.Series

/-! Shares of a resource by what uses it. -/
namespace ClusterBilling

/-- Shares that are added up each on its own, and need not make one. -/
structure Breakdown (α : Type) where
  idle : α
  other : α
  system : α
  user : α
deriving DecidableEq, Repr

/-- A processor mode. -/
inductive Mode where
  | idle
  | other
  | system
  | user
deriving DecidableEq, Repr

/-- Every word but three stands for the other modes. -/
def Mode.ofLabel (label : Text) : Mode :=
  if label = "idle" then idle
  else if label = "system" then system
  else if label = "user" then user
  else other

namespace Breakdown
variable {α : Type} [Arithmetic α]

def zero : Breakdown α :=
  ⟨Arithmetic.ofNat 0, Arithmetic.ofNat 0, Arithmetic.ofNat 0, Arithmetic.ofNat 0⟩

def add (b : Breakdown α) (mode : Mode) (share : α) : Breakdown α :=
  match mode with
  | .idle => { b with idle := b.idle + share }
  | .other => { b with other := b.other + share }
  | .system => { b with system := b.system + share }
  | .user => { b with user := b.user + share }

def get (b : Breakdown α) : Mode → α
  | .idle => b.idle
  | .other => b.other
  | .system => b.system
  | .user => b.user

theorem get_add (b : Breakdown α) (mode mode' : Mode) (share : α) :
    (b.add mode share).get mode' = if mode' = mode then b.get mode + share else b.get mode' := by
  cases mode <;> cases mode' <;> rfl

/-- Add the leading value of a series; a series without samples adds nothing. -/
def addSeries (b : Breakdown α) (mode : Mode) (s : Series α) : Breakdown α :=
  match s.leading? with
  | some sample => b.add mode sample.value
  | none => b

/-- The shares of every cluster that has a series, with `mode` telling what a series measures. -/
def byCluster (mode : Series α → Mode) (series : List (Series α)) (fallback : Text) :
    Table (Breakdown α) :=
  series.foldl
    (fun table s => table.alter (s.clusterId fallback) fun b? =>
      (b?.getD zero).addSeries (mode s) s)
    ∅

end Breakdown

variable {α : Type} [Arithmetic α]

/-- Processor time by the mode that each series is labelled with. -/
def cpuBreakdowns (series : List (Series α)) (fallback : Text) : Table (Breakdown α) :=
  Breakdown.byCluster (fun s => .ofLabel (s.label "mode" "")) series fallback

/-- Memory that the system uses. -/
def ramBreakdowns (series : List (Series α)) (fallback : Text) : Table (Breakdown α) :=
  Breakdown.byCluster (fun _ => .system) series fallback

end ClusterBilling
