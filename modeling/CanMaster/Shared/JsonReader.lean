import CanMaster.Shared.Json

set_option autoImplicit false

namespace Json

-- A container that is still open. After a key its value has to come.
-- The reader stops at the end of the first value. Its numbers are integers and its strings have no
-- escapes.
inductive Container where
  | items (read : List Json)
  | members (read : List (String × Json))
  | member (read : List (String × Json)) (key : String)

inductive ReaderState where
  | atValue (stack : List Container)
  | atArray (stack : List Container)
  | atObject (stack : List Container)
  | atKey (read : List (String × Json)) (stack : List Container)
  | inKey (text : List UInt8) (read : List (String × Json)) (stack : List Container)
  | atColon (key : String) (read : List (String × Json)) (stack : List Container)
  | inText (text : List UInt8) (stack : List Container)
  | inNumber (negative : Bool) (digits : List UInt8) (stack : List Container)
  | inWord (rest : List UInt8) (item : Json) (stack : List Container)
  | atNext (container : Container) (stack : List Container)
  | done (item : Json)
  | failed

namespace ReaderState

def isSpace (byte : UInt8) : Bool := byte ≤ 32

def isDigit (byte : UInt8) : Bool := 48 ≤ byte && byte ≤ 57

def textOf (bytes : List UInt8) : String :=
  String.ofList (bytes.map fun byte => Char.ofNat byte.toNat)

def numberOf (negative : Bool) (digits : List UInt8) : Json :=
  let magnitude : Nat := digits.foldl (fun value byte => 10 * value + (byte.toNat - 48)) 0
  .number (if negative then -(magnitude : ℚ) else magnitude)

def finish (item : Json) : List Container → ReaderState
  | [] => .done item
  | .items read :: stack => .atNext (.items (read ++ [item])) stack
  | .member read key :: stack => .atNext (.members (read ++ [(key, item)])) stack
  | .members _ :: _ => .failed

def beginValue (stack : List Container) (byte : UInt8) : ReaderState :=
  if byte = 34 then .inText [] stack
  else if byte = 91 then .atArray stack
  else if byte = 123 then .atObject stack
  else if byte = 45 then .inNumber true [] stack
  else if isDigit byte then .inNumber false [byte] stack
  else if byte = 116 then .inWord [114, 117, 101] (.bool true) stack
  else if byte = 102 then .inWord [97, 108, 115, 101] (.bool false) stack
  else if byte = 110 then .inWord [117, 108, 108] .null stack
  else .failed

def next (container : Container) (stack : List Container) (byte : UInt8) : ReaderState :=
  if isSpace byte then .atNext container stack
  else
    match container with
    | .items read =>
        if byte = 44 then .atValue (.items read :: stack)
        else if byte = 93 then finish (.array read) stack
        else .failed
    | .members read =>
        if byte = 44 then .atKey read stack
        else if byte = 125 then finish (.object read) stack
        else .failed
    | .member _ _ => .failed

-- The byte that ends a number already belongs to what follows the number.
def leaveNumber (number : ReaderState) (byte : UInt8) : ReaderState :=
  match number with
  | .atNext container stack => next container stack byte
  | other => other

def step (state : ReaderState) (byte : UInt8) : ReaderState :=
  match state with
  | .atValue stack => if isSpace byte then .atValue stack else beginValue stack byte
  | .atArray stack =>
      if isSpace byte then .atArray stack
      else if byte = 93 then finish (.array []) stack
      else beginValue (.items [] :: stack) byte
  | .atObject stack =>
      if isSpace byte then .atObject stack
      else if byte = 125 then finish (.object []) stack
      else if byte = 34 then .inKey [] [] stack
      else .failed
  | .atKey read stack =>
      if isSpace byte then .atKey read stack
      else if byte = 34 then .inKey [] read stack
      else .failed
  | .inKey text read stack =>
      if byte = 34 then .atColon (textOf text) read stack
      else if byte = 92 then .failed
      else .inKey (text ++ [byte]) read stack
  | .atColon key read stack =>
      if isSpace byte then .atColon key read stack
      else if byte = 58 then .atValue (.member read key :: stack)
      else .failed
  | .inText text stack =>
      if byte = 34 then finish (.string (textOf text)) stack
      else if byte = 92 then .failed
      else .inText (text ++ [byte]) stack
  | .inNumber negative digits stack =>
      if isDigit byte then .inNumber negative (digits ++ [byte]) stack
      else if digits = [] then .failed
      else leaveNumber (finish (numberOf negative digits) stack) byte
  | .inWord rest item stack =>
      match rest with
      | [] => .failed
      | [last] => if byte = last then finish item stack else .failed
      | first :: later => if byte = first then .inWord later item stack else .failed
  | .atNext container stack => next container stack byte
  | .done item => .done item
  | .failed => .failed

-- Only a number can end where the text ends.
def result : ReaderState → Option Json
  | .done item => some item
  | .inNumber negative digits [] => if digits = [] then none else some (numberOf negative digits)
  | _ => none

end ReaderState

open ReaderState

def read (text : List UInt8) : Option Json := (text.foldl step (.atValue [])).result

-- A parser that has accepted a text accepts every continuation of it, with the same tree
-- unless the text ends within a number.
def StopsAtValue (parse : List UInt8 → Option Json) : Prop :=
  ∀ text more item, parse text = some item →
    parse (text ++ more) = some item ∨
      ∃ whole longer, item = .number whole ∧ parse (text ++ more) = some (.number longer)

theorem foldl_done (item : Json) (more : List UInt8) :
    more.foldl step (.done item) = .done item := by
  induction more with
  | nil => rfl
  | cons byte rest ih => simpa [step] using ih

theorem foldl_inNumber (negative : Bool) (digits more : List UInt8) (some_digit : digits ≠ []) :
    ∃ longer, (more.foldl step (.inNumber negative digits [])).result = some (.number longer) := by
  induction more generalizing digits with
  | nil => simp [result, some_digit, numberOf]
  | cons byte rest ih =>
    by_cases digit : isDigit byte = true
    next => simpa [step, digit] using ih (digits ++ [byte]) (by simp)
    next =>
      have left : step (.inNumber negative digits []) byte = .done (numberOf negative digits) := by
        simp [step, digit, some_digit, finish, leaveNumber]
      rw [List.foldl_cons, left, foldl_done]
      exact ⟨_, rfl⟩

theorem read_stops : StopsAtValue read := by
  intro text more item accepted
  unfold read at accepted ⊢
  rw [List.foldl_append]
  generalize text.foldl step (.atValue []) = state at accepted ⊢
  cases state with
  | done found =>
    left
    rwa [foldl_done]
  | inNumber negative digits stack =>
    cases stack with
    | cons container stack => simp [result] at accepted
    | nil =>
      by_cases empty : digits = []
      next => simp [result, empty] at accepted
      next =>
        right
        simp only [result, empty, if_false, Option.some.injEq] at accepted
        obtain ⟨longer, later⟩ := foldl_inNumber negative digits more empty
        exact ⟨_, longer, accepted.symm, later⟩
  | _ => simp [result] at accepted

end Json
