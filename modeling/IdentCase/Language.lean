import IdentCase.Convention
import IdentCase.Fault
import IdentCase.SortedSet

/-!
# Languages

A run needs to know the keywords of a language, which are never renamed, and its delimiters, which
bound identifiers. A registry holds such tables; a table that is added replaces one of the same
name. The builtin tables need no settings. Neither the double quote nor the backslash delimits in
them, since both take part in literals.
-/

set_option autoImplicit false

namespace IdentCase

structure Language where
  name : String
  aliases : List String
  keywords : SortedSet String
  delimiters : SortedSet Char
deriving DecidableEq, Repr

def sameName (a b : String) : Bool := asciiLower a == asciiLower b

namespace Language

def answersTo (l : Language) (name : String) : Bool :=
  sameName l.name name || l.aliases.any (sameName · name)

end Language

structure Registry where
  languages : List Language
deriving DecidableEq, Repr

namespace Registry

def empty : Registry := ⟨[]⟩

def insert (r : Registry) (l : Language) : Registry :=
  ⟨r.languages.filter (fun old => !sameName old.name l.name) ++ [l]⟩

def insertMany (r : Registry) (ls : List Language) : Registry := ls.foldl insert r

def names (r : Registry) : List String := r.languages.map Language.name

def find? (r : Registry) (name : String) : Option Language :=
  r.languages.reverse.find? (·.answersTo name)

def resolve (r : Registry) (name : String) : Except Fault Language :=
  match r.find? name with
  | some l => .ok l
  | none => .error (.languageNotFound name r.names)

end Registry

namespace Language

def cPunctuation : List Char :=
  "()\x7b\x7d[];,.:=+-*/%<>!&|^~?#'".toList

def scriptPunctuation : List Char :=
  "()\x7b\x7d[];,.:=+-*/%<>!&|^~?#@'`".toList

def ofLists (name : String) (aliases : List String) (keywords : List String)
    (delimiters : List Char) : Language :=
  ⟨name, aliases, .ofList keywords, .ofList delimiters⟩

def c : Language :=
  ofLists "c" ["h"]
    ["auto", "break", "case", "char", "const", "continue", "default", "do", "double", "else",
      "enum", "extern", "float", "for", "goto", "if", "inline", "int", "long", "register",
      "restrict", "return", "short", "signed", "sizeof", "static", "struct", "switch", "typedef",
      "union", "unsigned", "void", "volatile", "while", "_Bool", "_Complex", "_Imaginary", "NULL",
      "bool", "true", "false"]
    cPunctuation

def cpp : Language :=
  ofLists "cpp" ["c++", "cc", "cxx", "hpp"]
    ["alignas", "alignof", "and", "asm", "auto", "bool", "break", "case", "catch", "char", "class",
      "const", "constexpr", "const_cast", "continue", "decltype", "default", "delete", "do",
      "double", "dynamic_cast", "else", "enum", "explicit", "export", "extern", "false", "float",
      "for", "friend", "goto", "if", "inline", "int", "long", "mutable", "namespace", "new",
      "noexcept", "not", "nullptr", "operator", "or", "private", "protected", "public", "register",
      "reinterpret_cast", "return", "short", "signed", "sizeof", "static", "static_assert",
      "static_cast", "struct", "switch", "template", "this", "throw", "true", "try", "typedef",
      "typeid", "typename", "union", "unsigned", "using", "virtual", "void", "volatile", "while",
      "xor", "NULL", "std"]
    cPunctuation

def java : Language :=
  ofLists "java" []
    ["abstract", "assert", "boolean", "break", "byte", "case", "catch", "char", "class", "const",
      "continue", "default", "do", "double", "else", "enum", "extends", "final", "finally", "float",
      "for", "goto", "if", "implements", "import", "instanceof", "int", "interface", "long",
      "native", "new", "package", "private", "protected", "public", "return", "short", "static",
      "strictfp", "super", "switch", "synchronized", "this", "throw", "throws", "transient", "try",
      "void", "volatile", "while", "true", "false", "null", "var", "record", "String", "Object"]
    cPunctuation

def javascript : Language :=
  ofLists "javascript" ["js", "jsx", "mjs"]
    ["async", "await", "break", "case", "catch", "class", "const", "continue", "debugger",
      "default", "delete", "do", "else", "export", "extends", "false", "finally", "for", "function",
      "if", "import", "in", "instanceof", "let", "new", "null", "of", "return", "static", "super",
      "switch", "this", "throw", "true", "try", "typeof", "undefined", "var", "void", "while",
      "with", "yield", "console", "document", "window"]
    scriptPunctuation

def python : Language :=
  ofLists "python" ["py"]
    ["False", "None", "True", "and", "as", "assert", "async", "await", "break", "class",
      "continue", "def", "del", "elif", "else", "except", "finally", "for", "from", "global", "if",
      "import", "in", "is", "lambda", "nonlocal", "not", "or", "pass", "raise", "return", "try",
      "while", "with", "yield", "self", "cls", "print", "__init__", "__name__", "__main__"]
    scriptPunctuation

def go : Language :=
  ofLists "go" ["golang"]
    ["break", "case", "chan", "const", "continue", "default", "defer", "else", "fallthrough",
      "for", "func", "go", "goto", "if", "import", "interface", "map", "package", "range", "return",
      "select", "struct", "switch", "type", "var", "bool", "byte", "error", "int", "string", "nil",
      "true", "false", "iota"]
    cPunctuation

def rust : Language :=
  ofLists "rust" ["rs"]
    ["as", "async", "await", "break", "const", "continue", "crate", "dyn", "else", "enum",
      "extern", "false", "fn", "for", "if", "impl", "in", "let", "loop", "match", "mod", "move",
      "mut", "pub", "ref", "return", "self", "Self", "static", "struct", "super", "trait", "true",
      "type", "unsafe", "use", "where", "while", "Some", "None", "Ok", "Err", "String", "Vec",
      "Option", "Result", "Box"]
    cPunctuation

end Language

def Registry.builtin : Registry :=
  ⟨[.c, .cpp, .java, .javascript, .python, .go, .rust]⟩

end IdentCase
