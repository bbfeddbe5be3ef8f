import ProofTutor.Text.Basic

/-!
The file that tells the prover where its libraries are. Paths inside the prover's directory are
written relative to it and all others in full, and paths are compared by their components.
-/

namespace ProofTutor.SearchPath

def fileName : String := "leanpkg.path"

def components (path : List Char) : List (List Char) :=
  (Text.splitAt (· == '/') path).filter fun c => c ≠ [] && c ≠ ['.']

def isAbsolute (path : List Char) : Bool :=
  path.head? == some '/'

def trimStart : List Char → List Char
  | '/' :: rest => trimStart rest
  | '.' :: '/' :: rest => trimStart rest
  | ['.'] => []
  | path => path

def trimEnd (path : List Char) : List Char :=
  (trimStart path.reverse).reverse

def afterComponent : List Char → List Char
  | [] => []
  | '/' :: rest => rest
  | _ :: rest => afterComponent rest

def stripComponents? : (dir : List (List Char)) → (path : List Char) → Option (List Char)
  | [], path => some (trimEnd (trimStart path))
  | c :: dir, path =>
    let path := trimStart path
    if path.takeWhile (· ≠ '/') = c then stripComponents? dir (afterComponent path) else none

def relative? (dir path : List Char) : Option (List Char) :=
  if isAbsolute path then stripComponents? (components dir) path else none

def absolute (workingDir path : List Char) : List Char :=
  if path = [] then []
  else
    let names := components path
    let tail := Text.joinWith ['/'] names
    let root :=
      if !isAbsolute path then
        if workingDir.getLast? = some '/' || names = [] then workingDir else workingDir ++ ['/']
      else if (Text.stripHead? ['/', '/'] path).isSome && !(path[2]? == some '/') then ['/', '/']
      else ['/']
    let full := root ++ tail
    if path.getLast? = some '/' && full.getLast? ≠ some '/' then full ++ ['/'] else full

def encoded (dir workingDir path : String) : String :=
  let path := path.toList
  .ofList ((relative? dir.toList path).getD (absolute workingDir.toList path))

def content (dir workingDir : String) (paths : List String) : String :=
  "builtin_path\n" ++ String.join (paths.map fun path =>
    "path " ++ encoded dir workingDir path ++ "\n")

end ProofTutor.SearchPath
