import ChatBackend.Domain

/-!
# JSON values

The part of `nlohmann::json` that the WebSocket code works with: values as the parser produces them,
and the accessors. Strings are valid UTF-8, which the parser checks; where the code looks at the
bytes of a string, `utf8` has them.

## Main definitions

* `Json`, `Json.find`, `Json.entry`
* `utf8` — the bytes of a `std::string`
-/

namespace ChatBackend

/-- `nlohmann::json`. The parser keeps a non-negative integer as `unsigned` and a negative one as
`integer`; a number that is neither is a `double`, of which nothing but its bits is kept here. -/
inductive Json where
  | null
  | boolean (value : Bool)
  | unsigned (value : UInt64)
  | integer (value : Int64)
  | double (bits : UInt64)
  | string (value : String)
  | array (elements : List Json)
  | object (fields : List (String × Json))

namespace Json

/-- `is_object`. -/
def isObject : Json → Bool
  | object _ => true
  | _ => false

/-- `find`: the value of a field; nothing but an object has fields. -/
def find : Json → String → Option Json
  | object fields, field => (fields.find? fun entry => entry.1 = field).map Prod.snd
  | _, _ => none

/-- The value that `operator[]` refers to, for reading: `null` if it has just inserted the field. On
a value that is neither an object nor `null`, it throws. -/
def entry : Json → String → Option Json
  | object fields, field => some ((object fields).find field |>.getD null)
  | null, _ => some null
  | _, _ => none

@[simp] theorem isObject_object {fields : List (String × Json)} : (object fields).isObject = true :=
  rfl

@[simp] theorem find_object {fields : List (String × Json)} {field : String} :
    (object fields).find field = (fields.find? fun entry => entry.1 = field).map Prod.snd := rfl

/-- Only an object has fields. -/
theorem isObject_of_find {body value : Json} {field : String} (h : body.find field = some value) :
    body.isObject := by
  cases body <;> first | rfl | cases h

end Json

/-! ### Bytes of strings -/

/-- The bytes of a `std::string`. -/
def utf8 (text : String) : Bytes := text.toList.flatMap String.utf8EncodeChar

/-- `find_first_not_of(" \t\r\n") == npos`. -/
def isBlank (text : String) : Bool := text.toList.all fun c => c ∈ [' ', '\t', '\r', '\n']

/-- The bytes of ASCII text are its characters. -/
theorem utf8_ofList {cs : List Char} (h : ∀ c ∈ cs, c.utf8Size = 1) :
    utf8 (String.ofList cs) = cs.map Char.toUInt8 := by
  rw [utf8, String.toList_ofList]
  induction cs with
  | nil => rfl
  | cons c cs ih =>
    obtain ⟨hc, hcs⟩ := List.forall_mem_cons.mp h
    rw [List.flatMap_cons, String.utf8EncodeChar_eq_singleton hc, ih hcs, List.map_cons]
    rfl

/-- A hexadecimal digit is one byte. -/
theorem utf8Size_hexDigit (n : ℕ) : (hexDigit n).utf8Size = 1 := by
  by_cases h : n < 16
  · have all : ∀ n < 16, (hexDigit n).utf8Size = 1 := by decide
    exact all n h
  · rw [hexDigit, List.getD_eq_default _ _ (by simpa using h)]
    rfl

end ChatBackend
