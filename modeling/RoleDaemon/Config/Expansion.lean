import RoleDaemon.Text.Blank

/-!
# Environment Variables and Their Expansion

A text may refer to environment variables.  A reference to a variable that is set stands for its
value, as it is; a reference to one that is not set stands for itself.

Main definitions:
- `Variables`: the environment of the process
- `Variables.get?`: the value of a variable
- `expand`: a text with its references replaced
- `references`: the names that a text refers to
-/

namespace RoleDaemon

/-! ## §1 Variables -/

/-- The environment: names and values, in the order in which they are searched. -/
structure Variables where
  entries : List (String × String)
  deriving Repr

namespace Variables

def behind? : (start : List Char) → List Char → Option (List Char)
  | [], cs => some cs
  | _ :: _, [] => none
  | s :: start, c :: cs => if s = c then behind? start cs else none

/-- The value of a variable.  The environment holds entries of a name, an equals sign and a value, and
    the first entry that starts with the name and an equals sign gives the value.  Nothing has the
    empty name, or a name with the character zero in it. -/
def get? (vars : Variables) (name : String) : Option String :=
  if name.isEmpty || name.toList.any (·.toNat = 0) then none
  else vars.entries.findSome? fun (n, v) =>
    (behind? (name.toList ++ ['=']) (n.toList ++ '=' :: v.toList)).map String.ofList

end Variables

/-! ## §2 Expansion -/

/-- The characters of a text up to the first closing brace. -/
def referenceName (cs : List Char) : List Char :=
  cs.takeWhile (· ≠ '\x7d')

/-- The characters of a text behind the first closing brace. -/
def behindReference (cs : List Char) : List Char :=
  (cs.dropWhile (· ≠ '\x7d')).drop 1

theorem length_behindReference_le (cs : List Char) : (behindReference cs).length ≤ cs.length := by
  have h : (cs.dropWhile (· ≠ '\x7d')).length ≤ cs.length :=
    (List.dropWhile_sublist _).length_le
  simp only [behindReference, List.length_drop]
  omega

/-- What a reference stands for: the value of the variable, or the reference itself. -/
def referenceValue (vars : Variables) (name : List Char) : List Char :=
  match vars.get? (String.ofList name) with
  | some value => value.toList
  | none => '$' :: '\x7b' :: (name ++ ['\x7d'])

/-- The text with each reference replaced.  A reference starts with a dollar sign and an opening brace
    and ends with the next closing brace, or with the text. -/
def expandChars (vars : Variables) : List Char → List Char
  | [] => []
  | '$' :: '\x7b' :: rest =>
    referenceValue vars (referenceName rest) ++ expandChars vars (behindReference rest)
  | c :: rest => c :: expandChars vars rest
termination_by cs => cs.length
decreasing_by
  · have := length_behindReference_le rest
    simp only [List.length_cons]
    omega
  · simp

/-- The text with each reference replaced. -/
def expand (vars : Variables) (s : String) : String :=
  String.ofList (expandChars vars s.toList)

/-- The names of the variables that a text refers to, in order. -/
def references : List Char → List (List Char)
  | [] => []
  | '$' :: '\x7b' :: rest => referenceName rest :: references (behindReference rest)
  | _ :: rest => references rest
termination_by cs => cs.length
decreasing_by
  · have := length_behindReference_le rest
    simp only [List.length_cons]
    omega
  · simp

end RoleDaemon
