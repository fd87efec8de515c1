import Mathlib

-- The values of `json` without floating point numbers, and its compact writer. An object is the
-- list of its members in the order of the text.

inductive Json
  | null
  | bool (b : Bool)
  | int (n : Int)
  | str (s : String)
  | arr (xs : List Json)
  | obj (kvs : List (String × Json))

namespace Json

def hexChar (n : Nat) : Char :=
  Nat.digitChar (n % 16)

-- Non-ASCII characters are written as they are.
def escape (c : Char) : List Char :=
  if c = '"' then ['\\', '"']
  else if c = '\\' then ['\\', '\\']
  else if c = '\n' then ['\\', 'n']
  else if c = '\r' then ['\\', 'r']
  else if c = '\t' then ['\\', 't']
  else if c = '\x0c' then ['\\', 'f']
  else if c = '\x08' then ['\\', 'b']
  else if c.toNat < 32 then ['\\', 'u', '0', '0', hexChar (c.toNat / 16), hexChar c.toNat]
  else [c]

def quote (s : String) : List Char :=
  '"' :: s.toList.flatMap escape ++ ['"']

def intText : Int → List Char
  | .ofNat n   => Nat.toDigits 10 n
  | .negSucc n => '-' :: Nat.toDigits 10 (n + 1)

mutual

def text : Json → List Char
  | null       => ['n', 'u', 'l', 'l']
  | bool true  => ['t', 'r', 'u', 'e']
  | bool false => ['f', 'a', 'l', 's', 'e']
  | int n      => intText n
  | str s      => quote s
  | arr []     => ['[', ']']
  | arr (x :: xs) => '[' :: text x ++ itemsText xs
  | obj []     => ['{', '}']
  | obj ((k, v) :: kvs) => '{' :: quote k ++ ':' :: text v ++ membersText kvs

def itemsText : List Json → List Char
  | []      => [']']
  | x :: xs => ',' :: text x ++ itemsText xs

def membersText : List (String × Json) → List Char
  | []            => ['}']
  | (k, v) :: kvs => ',' :: quote k ++ ':' :: text v ++ membersText kvs

end

-- `json.dumps` with the compact separators.
def dumps (j : Json) : String :=
  .ofList j.text

end Json
