/-! # Paths as texts -/

namespace CommandShell

def separateChars (separator : Char) : List Char → List (List Char)
  | [] => [[]]
  | c :: cs =>
    if c = separator then [] :: separateChars separator cs
    else match separateChars separator cs with
      | [] => [[c]]
      | piece :: rest => (c :: piece) :: rest

def separate (separator : Char) (text : String) : List String :=
  (separateChars separator text.toList).map String.ofList

namespace Path

def isAbsolute (path : String) : Bool := path.toList.head? = some '/'

def join (directory path : String) : String :=
  if isAbsolute path then path
  else if directory.isEmpty || directory.toList.getLast? = some '/' then directory ++ path
  else directory ++ "/" ++ path

def components (path : String) : List String := separate '/' path

/-- The number of slashes that a simplified path starts with: two stay two, three or more are
one. -/
def leadingSlashes (path : String) : Nat :=
  match path.toList with
  | '/' :: '/' :: '/' :: _ => 1
  | '/' :: '/' :: _ => 2
  | '/' :: _ => 1
  | _ => 0

/-- One name of a path that is simplified, after the names that are kept, the last one first. A
`..` takes the name before it away, and at the root it stays there. -/
def simplifyStep (rooted : Bool) (kept : List String) (name : String) : List String :=
  if name = "" || name = "." then kept
  else if name = ".." then
    match kept with
    | [] => if rooted then [] else [".."]
    | last :: rest => if last = ".." then ".." :: kept else rest
  else name :: kept

def simplify (path : String) : String :=
  let slashes := leadingSlashes path
  let kept := (components path).foldl (simplifyStep (0 < slashes)) []
  let text := String.ofList (List.replicate slashes '/') ++ String.intercalate "/" kept.reverse
  if text.isEmpty then "." else text

end Path

end CommandShell
