import CanMaster.Shared.Json

set_option autoImplicit false

namespace Json

def tabs (depth : Nat) : String := String.ofList (List.replicate depth '\t')

-- Only for integers, and strings that need no escape.
def integerText (valuedouble : ℚ) : String :=
  (if valuedouble.num < 0 then "-" else "") ++ toString valuedouble.num.natAbs

def quoted (text : String) : String := "\"" ++ text ++ "\""

-- What a layout with line breaks and tabs adds.
def spaced (format : Bool) (space : String) : String := if format then space else ""

mutual

def print (format : Bool) (depth : Nat) : Json → String
  | .null => "null"
  | .bool value => if value then "true" else "false"
  | .number valuedouble => integerText valuedouble
  | .string valuestring => quoted valuestring
  | .array items => "[" ++ printItems format (depth + 1) items ++ "]"
  | .object members =>
      "\x7b" ++ spaced format "\n" ++ printMembers format (depth + 1) members ++
        spaced format (tabs depth) ++ "\x7d"

def printItems (format : Bool) (depth : Nat) : List Json → String
  | [] => ""
  | item :: rest =>
      print format depth item ++
        (if rest.isEmpty then "" else "," ++ spaced format " ") ++
        printItems format depth rest

def printMembers (format : Bool) (depth : Nat) : List (String × Json) → String
  | [] => ""
  | (key, value) :: rest =>
      spaced format (tabs depth) ++ quoted key ++ ":" ++ spaced format "\t" ++
        print format depth value ++ (if rest.isEmpty then "" else ",") ++ spaced format "\n" ++
        printMembers format depth rest

end

@[simp] theorem tabs_length (depth : Nat) : (tabs depth).length = depth := by
  simp [tabs]

@[simp] theorem quoted_length (text : String) : (quoted text).length = text.length + 2 := by
  have mark : ("\"" : String).length = 1 := rfl
  simp only [quoted, String.length_append, mark]
  omega

def digits (n : Nat) : Nat := (Nat.toDigits 10 n).length

theorem toString_length (n : Nat) : (toString n).length = digits n := by
  rw [Nat.toString_eq_repr, ← String.length_toList, Nat.toList_repr, digits]

@[simp] theorem integerText_length (n : Nat) : (integerText n).length = digits n := by
  have positive : ¬ (n : Int) < 0 := by omega
  simp [integerText, positive, ← toString_length]

theorem printItems_length_ge (format : Bool) (depth : Nat) (items : List Json) :
    (items.map fun item => (print format depth item).length).sum ≤
      (printItems format depth items).length := by
  induction items with
  | nil => exact Nat.zero_le _
  | cons item rest ih =>
    simp only [printItems, String.length_append, List.map_cons, List.sum_cons]
    omega

theorem printMembers_length_ge (format : Bool) (depth : Nat) (members : List (String × Json)) :
    (members.map fun member => member.1.length + 3 + (print format depth member.2).length).sum ≤
      (printMembers format depth members).length := by
  have colon : (":" : String).length = 1 := rfl
  induction members with
  | nil => exact Nat.zero_le _
  | cons member rest ih =>
    simp only [printMembers, String.length_append, quoted_length, colon, List.map_cons,
      List.sum_cons]
    omega

theorem print_array_length_ge (format : Bool) (depth : Nat) (items : List Json) :
    (items.map fun item => (print format (depth + 1) item).length).sum ≤
      (print format depth (.array items)).length := by
  have inner := printItems_length_ge format (depth + 1) items
  simp only [print, String.length_append]
  omega

theorem print_object_length_ge (format : Bool) (depth : Nat) (members : List (String × Json)) :
    (members.map fun member =>
        member.1.length + 3 + (print format (depth + 1) member.2).length).sum ≤
      (print format depth (.object members)).length := by
  have inner := printMembers_length_ge format (depth + 1) members
  simp only [print, String.length_append]
  omega

section Lengths

private theorem comma_length : ("," : String).length = 1 := rfl

private theorem line_length : ("\n" : String).length = 1 := rfl

theorem print_number_length (depth n : Nat) : (print true depth (.number n)).length = digits n :=
  integerText_length n

theorem print_string_length (depth : Nat) (text : String) :
    (print true depth (.string text)).length = text.length + 2 :=
  quoted_length text

theorem printItems_length (depth : Nat) (items : List Json) :
    (printItems true depth items).length =
      (items.map fun item => (print true depth item).length).sum + 2 * (items.length - 1) := by
  have space : (" " : String).length = 1 := rfl
  induction items with
  | nil => rfl
  | cons item rest ih =>
    simp only [printItems, String.length_append, ih, List.map_cons, List.sum_cons,
      List.length_cons]
    cases rest with
    | nil => rfl
    | cons next others =>
      simp only [List.isEmpty_cons, Bool.false_eq_true, if_false, String.length_append,
        comma_length, spaced, if_true, space, List.length_cons]
      omega

theorem printMembers_length (depth : Nat) (members : List (String × Json)) :
    (printMembers true depth members).length =
      (members.map fun member =>
        depth + member.1.length + 5 + (print true depth member.2).length).sum +
      (members.length - 1) := by
  have colon : (":" : String).length = 1 := rfl
  have tab : ("\t" : String).length = 1 := rfl
  induction members with
  | nil => rfl
  | cons member rest ih =>
    simp only [printMembers, String.length_append, ih, spaced, if_true, tabs_length,
      quoted_length, colon, tab, line_length, List.map_cons, List.sum_cons, List.length_cons]
    cases rest with
    | nil =>
      simp only [List.isEmpty_nil, if_true, String.length_empty, List.map_nil, List.sum_nil,
        List.length_nil]
      omega
    | cons next others =>
      simp only [List.isEmpty_cons, Bool.false_eq_true, if_false, comma_length, List.length_cons]
      omega

theorem print_array_length (depth : Nat) (items : List Json) :
    (print true depth (.array items)).length =
      (items.map fun item => (print true (depth + 1) item).length).sum +
        2 * (items.length - 1) + 2 := by
  have left : ("[" : String).length = 1 := rfl
  have right : ("]" : String).length = 1 := rfl
  simp only [print, String.length_append, printItems_length, left, right]
  omega

theorem print_object_length (depth : Nat) (members : List (String × Json)) :
    (print true depth (.object members)).length =
      (printMembers true (depth + 1) members).length + depth + 3 := by
  have left : ("\x7b" : String).length = 1 := rfl
  have right : ("\x7d" : String).length = 1 := rfl
  simp only [print, String.length_append, left, right, line_length, spaced, if_true, tabs_length]
  omega

end Lengths

end Json
