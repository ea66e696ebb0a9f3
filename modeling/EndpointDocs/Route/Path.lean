import EndpointDocs.Text.Word

/-!
# Route paths

* `Route.pathVariables`: the names of the variables `{name}` and `{name:converter}` of a path.
* `Route.join`: a path below another one.
-/

namespace EndpointDocs.Route

/-- The name of a variable that starts here, behind its brace, and the rest of the path. -/
def variableHere? (cs : List Char) : Option (List Char × List Char) :=
  let name := cs.takeWhile Text.isWordChar
  if name.isEmpty then none
  else match cs.dropWhile Text.isWordChar with
    | '}' :: rest => some (name, rest)
    | ':' :: rest =>
      match rest.dropWhile (· != '}') with
      | _ :: rest => some (name, rest)
      | [] => none
    | _ => none

theorem length_of_variableHere? {cs name rest : List Char}
    (h : variableHere? cs = some (name, rest)) : rest.length < cs.length := by
  have hle : (cs.dropWhile Text.isWordChar).length ≤ cs.length :=
    (List.dropWhile_sublist _).length_le
  unfold variableHere? at h
  simp only at h
  split at h
  · simp at h
  · split at h
    · rename_i hd
      cases h
      rw [hd] at hle
      simp only [List.length_cons] at hle
      omega
    · rename_i r hd
      split at h
      · rename_i c r' hr
        have hr' : (r.dropWhile (· != '}')).length ≤ r.length :=
          (List.dropWhile_sublist _).length_le
        cases h
        rw [hr] at hr'
        rw [hd] at hle
        simp only [List.length_cons] at hle hr'
        omega
      · simp at h
    · simp at h

/-- The names of the variables of a path, from left to right. -/
def pathVariables : List Char → List (List Char)
  | [] => []
  | c :: cs =>
    if c = '{' then
      match _h : variableHere? cs with
      | some (name, rest) => name :: pathVariables rest
      | none => pathVariables cs
    else pathVariables cs
termination_by cs => cs.length
decreasing_by
  · exact Nat.lt_succ_of_lt (length_of_variableHere? _h)
  all_goals simp

def isSlash (c : Char) : Bool := c == '/'

/-- A path below another one, with one slash between them. -/
def join (base path : String) : String :=
  if base = "" then path
  else String.ofList ((base.toList.reverse.dropWhile isSlash).reverse ++
    '/' :: path.toList.dropWhile isSlash)

end EndpointDocs.Route
