import Wiring.Document.Value

/-!
# Outer — Json — Printer

Writing JSON, on one line or indented by two spaces. Only quotes, backslashes and control
characters are escaped.
-/

namespace Wiring.Json

def hexChar (n : Nat) : Char := (Nat.toDigits 16 n).headD '0'

def escape (c : Char) : List Char :=
  match c with
  | '"' => ['\\', '"']
  | '\\' => ['\\', '\\']
  | '\x08' => ['\\', 'b']
  | '\x0c' => ['\\', 'f']
  | '\n' => ['\\', 'n']
  | '\x0d' => ['\\', 'r']
  | '\t' => ['\\', 't']
  | c => if c.toNat < 32 then ['\\', 'u', '0', '0', hexChar (c.toNat / 16), hexChar (c.toNat % 16)]
    else [c]

def quote (s : String) : String := "\"" ++ String.ofList (s.toList.flatMap escape) ++ "\""

def scalar : Value → String
  | .null | .list _ | .record _ => "null"
  | .bool b => if b then "true" else "false"
  | .int n => toString n
  | .real x => x.text
  | .str s => quote s
  | .moment m => quote m.text

mutual

def compact : Value → String
  | .list items => "[" ++ ",".intercalate (compactItems items) ++ "]"
  | .record fields => "\x7b" ++ ",".intercalate (compactFields fields) ++ "\x7d"
  | v => scalar v

def compactItems : List Value → List String
  | [] => []
  | v :: more => compact v :: compactItems more

def compactFields : List (String × Value) → List String
  | [] => []
  | (key, v) :: more => (quote key ++ ":" ++ compact v) :: compactFields more

end

def newline (depth : Nat) : String := "\n" ++ String.join (List.replicate depth "  ")

/-- Entries on lines of their own between two brackets, which stand together when there are none. -/
def block (depth : Nat) (opening closing : String) (entries : List String) : String :=
  if entries.isEmpty then opening ++ closing
  else opening ++ newline (depth + 1) ++ ("," ++ newline (depth + 1)).intercalate entries
    ++ newline depth ++ closing

mutual

def pretty (depth : Nat) : Value → String
  | .list items => block depth "[" "]" (prettyItems (depth + 1) items)
  | .record fields => block depth "\x7b" "\x7d" (prettyFields (depth + 1) fields)
  | v => scalar v

def prettyItems (depth : Nat) : List Value → List String
  | [] => []
  | v :: more => pretty depth v :: prettyItems depth more

def prettyFields (depth : Nat) : List (String × Value) → List String
  | [] => []
  | (key, v) :: more => (quote key ++ ": " ++ pretty depth v) :: prettyFields depth more

end

end Wiring.Json
