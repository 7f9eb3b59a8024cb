import TypedPattern.Registry

/-! The types that a registry starts with. -/

namespace TypedPattern

namespace Fragment

def wholeNumber : String :=
  "[+-]?[0-9]+"

def number : String :=
  "[+-]?(?:[0-9]*[.])?[0-9]+"

def uuid : String :=
  "[a-f0-9]\x7b8\x7d-?[a-f0-9]\x7b4\x7d-?[a-f0-9]\x7b4\x7d-?[a-f0-9]\x7b4\x7d-?[a-f0-9]\x7b12\x7d"

def date : String :=
  "[0-9]\x7b4\x7d-[0-9]\x7b1,2\x7d-[0-9]\x7b1,2\x7d"

def datetime : String :=
  "[0-9]\x7b4\x7d-[0-9]\x7b1,2\x7d-[0-9]\x7b1,2\x7d" ++
    "[T ][0-9]\x7b1,2\x7d:[0-9]\x7b1,2\x7d" ++
    "(?::[0-9]\x7b1,2\x7d(?:[.,][0-9]\x7b1,12\x7d)?)?" ++
    "(?:Z|[+-][0-9]\x7b2\x7d(?::?[0-9]\x7b2\x7d)?)?"

/-- Word characters but for digits and the underscore. -/
def letters : String :=
  "[^\\d_\\W]+"

def identifier : String :=
  "\\w+"

/-- An opening bracket, a square one being doubled. -/
def opening : String :=
  "\\[\\[|\\(|\\\x7b"

/-- A closing bracket, a square one being doubled. -/
def closing : String :=
  "\\]\\]|\\)|\\\x7d"

def email : String :=
  "[\\w.+-]+@[a-zA-Z0-9-]+\\.[a-zA-Z0-9.-]+"

def url : String :=
  "https?://(?:www\\.)?[-\\w@:%.+~#=]+\\.[\\w()]\x7b1,6\x7d\\b" ++
    "[-\\w()!@:%+.~#?&/=]*"

/-- The numbers of six kinds of payment card. -/
def creditCard : String :=
  "4[0-9]\x7b12\x7d(?:[0-9]\x7b3\x7d)?" ++
    "|(?:5[1-5][0-9]\x7b2\x7d|222[1-9]|22[3-9][0-9]|2[3-6][0-9]\x7b2\x7d|27[01][0-9]|2720)[0-9]\x7b12\x7d" ++
    "|3[47][0-9]\x7b13\x7d" ++
    "|3(?:0[0-5]|[68][0-9])[0-9]\x7b11\x7d" ++
    "|6(?:011|5[0-9]\x7b2\x7d)[0-9]\x7b12\x7d" ++
    "|(?:2131|1800|35[0-9]\x7b3\x7d)[0-9]\x7b11\x7d"

def ipv4 : String :=
  "(25[0-5]|2[0-4][0-9]|[01]?[0-9][0-9]?)" ++
    "(\\.(25[0-5]|2[0-4][0-9]|[01]?[0-9][0-9]?))\x7b3\x7d"

/-- The four numbers that may stand at the end of a longer address. -/
def embeddedIpv4 : String :=
  "((25[0-5]|(2[0-4]|1\x7b0,1\x7d[0-9])\x7b0,1\x7d[0-9])\\.)\x7b3,3\x7d" ++
    "(25[0-5]|(2[0-4]|1\x7b0,1\x7d[0-9])\x7b0,1\x7d[0-9])"

def ipv6 : String :=
  "(([0-9a-fA-F]\x7b1,4\x7d:)\x7b7,7\x7d[0-9a-fA-F]\x7b1,4\x7d" ++
    "|([0-9a-fA-F]\x7b1,4\x7d:)\x7b1,7\x7d:" ++
    "|([0-9a-fA-F]\x7b1,4\x7d:)\x7b1,6\x7d:[0-9a-fA-F]\x7b1,4\x7d" ++
    "|([0-9a-fA-F]\x7b1,4\x7d:)\x7b1,5\x7d(:[0-9a-fA-F]\x7b1,4\x7d)\x7b1,2\x7d" ++
    "|([0-9a-fA-F]\x7b1,4\x7d:)\x7b1,4\x7d(:[0-9a-fA-F]\x7b1,4\x7d)\x7b1,3\x7d" ++
    "|([0-9a-fA-F]\x7b1,4\x7d:)\x7b1,3\x7d(:[0-9a-fA-F]\x7b1,4\x7d)\x7b1,4\x7d" ++
    "|([0-9a-fA-F]\x7b1,4\x7d:)\x7b1,2\x7d(:[0-9a-fA-F]\x7b1,4\x7d)\x7b1,5\x7d" ++
    "|[0-9a-fA-F]\x7b1,4\x7d:((:[0-9a-fA-F]\x7b1,4\x7d)\x7b1,6\x7d)" ++
    "|:((:[0-9a-fA-F]\x7b1,4\x7d)\x7b1,7\x7d|:)" ++
    "|fe80:(:[0-9a-fA-F]\x7b0,4\x7d)\x7b0,4\x7d%[0-9a-zA-Z]\x7b1,\x7d" ++
    "|::(ffff(:0\x7b1,4\x7d)\x7b0,1\x7d:)\x7b0,1\x7d" ++ embeddedIpv4 ++
    "|([0-9a-fA-F]\x7b1,4\x7d:)\x7b1,4\x7d:" ++ embeddedIpv4 ++ ")"

end Fragment

namespace Registry

def builtinTypes : List (String × String × Converter) :=
  [("int", Fragment.wholeNumber, Converter.int),
   ("float", Fragment.number, Converter.float),
   ("decimal", Fragment.number, Converter.decimal),
   ("uuid", Fragment.uuid, Converter.uuid),
   ("date", Fragment.date, Converter.date),
   ("datetime", Fragment.datetime, Converter.datetime),
   ("letters", Fragment.letters, Converter.identity),
   ("identifier", Fragment.identifier, Converter.identity),
   ("open", Fragment.opening, Converter.identity),
   ("close", Fragment.closing, Converter.identity),
   ("email", Fragment.email, Converter.identity),
   ("url", Fragment.url, Converter.identity),
   ("creditcard", Fragment.creditCard, Converter.identity),
   ("ipv4", Fragment.ipv4, Converter.identity),
   ("ipv6", Fragment.ipv6, Converter.identity)]

def builtin (origin : Nat) : Registry :=
  builtinTypes.foldl (fun r (name, fragment, converter) =>
    match r.register name fragment converter origin with
    | .ok s => s
    | .error _ => r) empty

def builtinConverter? (name : String) : Option Converter :=
  builtinTypes.lookup name |>.map (·.2)

end Registry

end TypedPattern
