import Mathlib.Data.List.Basic

set_option autoImplicit false

namespace Mailbox

variable {S E τ : Type} [DecidableEq E] (next : S → E → S)

def receptions (kind : E) : S → List E → List S
  | _, [] => []
  | s, e :: rest => (if e = kind then [s] else []) ++ receptions kind (next s e) rest

theorem receptions_append (kind : E) (s : S) (events later : List E) :
    receptions next kind s (events ++ later) =
      receptions next kind s events ++ receptions next kind (events.foldl next s) later := by
  induction events generalizing s with
  | nil => rfl
  | cons e rest ih => simp [receptions, ih]

theorem receptions_fresh {kind : E} (s : S) {events : List E} (fresh : kind ∉ events) :
    receptions next kind s events = [] := by
  induction events generalizing s with
  | nil => rfl
  | cons e rest ih =>
    rw [List.mem_cons, not_or] at fresh
    simp [receptions, Ne.symm fresh.1, ih _ fresh.2]

/-- Each waiting message of the kind has a tag, with the state in which it will be taken. -/
def Foretells (kind : E) (s : S) (events : List E) (tags : List (τ × S)) : Prop :=
  tags.map Prod.snd = receptions next kind s events

variable {next} {kind : E} {s : S} {events : List E} {tags : List (τ × S)}

theorem Foretells.post (foretells : Foretells next kind s events tags) (tag : τ) :
    Foretells next kind s (events ++ [kind]) (tags ++ [(tag, events.foldl next s)]) := by
  unfold Foretells at foretells ⊢
  simp [receptions_append, receptions, foretells]

theorem Foretells.other (foretells : Foretells next kind s events tags) {later : List E}
    (fresh : kind ∉ later) : Foretells next kind s (events ++ later) tags := by
  unfold Foretells at foretells ⊢
  rw [receptions_append, receptions_fresh next _ fresh, List.append_nil, foretells]

theorem Foretells.take {rest : List E} (foretells : Foretells next kind s (kind :: rest) tags) :
    ∃ tag later, tags = (tag, s) :: later ∧ Foretells next kind (next s kind) rest later := by
  unfold Foretells at foretells
  cases tags with
  | nil => simp [receptions] at foretells
  | cons first later =>
    obtain ⟨tag, foretold⟩ := first
    simp only [List.map_cons, receptions, if_true, List.cons_append, List.nil_append,
      List.cons.injEq] at foretells
    obtain ⟨rfl, others⟩ := foretells
    exact ⟨tag, later, rfl, others⟩

theorem Foretells.skip {e : E} {rest : List E} (foretells : Foretells next kind s (e :: rest) tags)
    (other : e ≠ kind) : Foretells next kind (next s e) rest tags := by
  unfold Foretells at foretells ⊢
  rw [foretells]
  simp [receptions, other]

def upTo (kind : E) : List E → Nat
  | [] => 0
  | e :: rest => if kind ∈ e :: rest then upTo kind rest + 1 else 0

theorem upTo_eq_zero (kind : E) (messages : List E) : upTo kind messages = 0 ↔ kind ∉ messages := by
  cases messages with
  | nil => simp [upTo]
  | cons e rest =>
    rw [upTo]
    split
    next here => simp [here]
    next absent => simp [absent]

theorem upTo_append {kind : E} {later : List E} (other : kind ∉ later) (messages : List E) :
    upTo kind (messages ++ later) = upTo kind messages := by
  induction messages with
  | nil => simpa [upTo] using (upTo_eq_zero kind later).mpr other
  | cons e rest ih => simp [upTo, ih, other]

theorem upTo_drop (kind : E) (messages : List E) (n : Nat) :
    upTo kind (messages.drop n) = upTo kind messages - n := by
  induction n generalizing messages with
  | zero => rfl
  | succ n ih =>
    cases messages with
    | nil => simp [upTo]
    | cons e rest =>
      rw [List.drop_succ_cons, ih, upTo]
      split
      next => omega
      next absent =>
        rw [List.mem_cons, not_or] at absent
        have none := (upTo_eq_zero kind rest).mpr absent.2
        omega

end Mailbox
