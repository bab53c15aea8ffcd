/-!
# Headers

The fields of a message head: names in lower case with values that are bytes. A name may occur more
than once; the values of one name keep their order.

## Main definitions

* `isTokenChar`: the characters of names and methods.
* `HeaderName.read`: a name in its stored form.
* `HeaderValue.isValid`, `HeaderValue.text?`: the values that may be sent, and those that are text.
* `Headers`: the fields, with `get?`, `getAll`, `append`, `insert` and `remove`.
-/

namespace TrafficGateway

/-- The characters of header names and of methods. -/
def isTokenChar (c : Char) : Bool :=
  c.isAlphanum || "!#$%&'*+-.^_|~".toList.contains c || c.toNat == 0x60

/-- The text with its ASCII letters in lower case. -/
def asciiLower (s : String) : String :=
  s.map Char.toLower

namespace HeaderName

/-- How long a name may be. -/
def maxLength : Nat := 65535

/-- A name in its stored form, which is lower case; `none` when it is no name. -/
def read (s : String) : Option String :=
  if !s.isEmpty && s.toList.all isTokenChar && s.length ≤ maxLength then some (asciiLower s)
  else none

end HeaderName

/-- The bytes of a header value. -/
abbrev HeaderValue := List UInt8

namespace HeaderValue

/-- May the bytes be sent as a value? Controls may not, except for the tab. -/
def isValid (v : HeaderValue) : Bool :=
  v.all fun b => (0x20 ≤ b && b != 0x7f) || b == 0x09

/-- Is every byte visible ASCII, a space or a tab? -/
def isText (v : HeaderValue) : Bool :=
  v.all fun b => (0x20 ≤ b && b < 0x7f) || b == 0x09

/-- The text of a value, if it is text. Other values cannot be read and count as absent. -/
def text? (v : HeaderValue) : Option String :=
  if isText v then some (String.ofList (v.map fun b => Char.ofNat b.toNat)) else none

/-- The value that a text is sent as. -/
def ofText (s : String) : HeaderValue :=
  s.toUTF8.toList

end HeaderValue

/-- The fields of a message head, in the order in which they were added. -/
abbrev Headers := List (String × HeaderValue)

namespace Headers

/-- The first value of a name. Case does not matter in names. -/
def get? (h : Headers) (name : String) : Option HeaderValue :=
  (h.find? fun e => e.1 == asciiLower name).map (·.2)

/-- The values of a name, in order. -/
def getAll (h : Headers) (name : String) : List HeaderValue :=
  (h.filter fun e => e.1 == asciiLower name).map (·.2)

/-- The first value of a name, if it is text. -/
def text? (h : Headers) (name : String) : Option String :=
  (h.get? name).bind HeaderValue.text?

/-- The fields without those of a name. -/
def remove (h : Headers) (name : String) : Headers :=
  h.filter fun e => e.1 != asciiLower name

/-- Adds a value to those of a name. -/
def append (h : Headers) (name : String) (value : HeaderValue) : Headers :=
  h ++ [(asciiLower name, value)]

/-- Gives a name a single value. -/
def insert (h : Headers) (name : String) (value : HeaderValue) : Headers :=
  (h.remove name).append name value

end Headers

end TrafficGateway
