import Mathlib.Data.List.Basic

/-!
# Reading from a while ago

What is written is there at once; a read that lags shows it as it was some time
before. Once everything written is older than the lag, it shows what is there.
-/

namespace Foundation

/-- What was written and when, the latest first. -/
structure History (α : Type) where
  written : List (Nat × α)
  initial : α

namespace History
variable {α : Type} {h : History α} {lag delay now : Nat}

def current (h : History α) : α := (h.written.head?.map (·.2)).getD h.initial

/-- What a read shows that is so far behind. -/
def asOf (h : History α) (delay now : Nat) : α :=
  ((h.written.find? fun w => w.1 + delay ≤ now).map (·.2)).getD h.initial

def write (now : Nat) (a : α) (h : History α) : History α := ⟨(now, a) :: h.written, h.initial⟩

@[simp] theorem current_write (now : Nat) (a : α) (h : History α) :
    (h.write now a).current = a := rfl

theorem asOf_write (t : Nat) (a : α) (h : History α) (delay now : Nat) :
    (h.write t a).asOf delay now = if t + delay ≤ now then a else h.asOf delay now := by
  unfold write asOf
  rw [List.find?_cons]
  by_cases old : t + delay ≤ now <;> simp [old]

/-- Everything written is older than the lag. -/
def Settled (h : History α) (lag now : Nat) : Prop := ∀ w ∈ h.written, w.1 + lag ≤ now

theorem Settled.mono {later : Nat} (settled : h.Settled lag now) (on : now ≤ later) :
    h.Settled lag later :=
  fun w written => Nat.le_trans (settled w written) on

theorem Settled.asOf (settled : h.Settled lag now) (within : delay ≤ lag) :
    h.asOf delay now = h.current := by
  unfold History.asOf current
  cases same : h.written with
  | nil => rfl
  | cons w older =>
    have old := settled w (same ▸ List.mem_cons_self)
    rw [List.find?_cons_of_pos (by simpa using Nat.le_trans (Nat.add_le_add_left within w.1) old)]
    rfl

end History

end Foundation
