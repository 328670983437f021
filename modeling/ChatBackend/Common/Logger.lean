import ChatBackend.JsonReader
import ChatBackend.Websocket.Json

/-!
# The logger

`include/common/Logger.h`: `Logger::write` puts one JSON object on one line. The values of fields whose
names are not on a list are replaced by a fixed text.

## Main definitions

* `Level`, `Field`, `Moment` — what a line is made of
* `Logger.quote`, `Logger.allowed`, `Logger.write`
* `Logger.shown`, `Logger.shownField` — what a text and a field are to stand for

## Main results

* `Logger.escapes_quote` — a quoted text stands for its first 192 bytes
* `Logger.reads_line` — a line is an object
* `log_lines_well_formed`
-/

namespace ChatBackend

open JsonReader

/-! ### What a line is made of -/

/-- `Level`. -/
inductive Level where
  | debug
  | info
  | warn
  | error
  | off
  deriving DecidableEq

/-- The order of the levels. -/
def Level.rank : Level → ℕ
  | debug => 0
  | info => 1
  | warn => 2
  | error => 3
  | off => 4

/-- `Field::value`. -/
inductive FieldValue where
  | string (text : Bytes)
  | int64 (number : Int64)
  | uint64 (number : UInt64)
  | boolean (flag : Bool)

/-- `Field`. -/
structure Field where
  name : Bytes
  value : FieldValue

/-- When and where a line is written: the nanoseconds of `system_clock::now`, and the number that stands
for the thread. -/
structure Moment where
  now : ℤ
  threadId : UInt64

/-- `std::tm`. -/
structure Tm where
  year : ℤ
  month : ℤ
  day : ℤ
  hour : ℤ
  minute : ℤ
  second : ℤ
  deriving DecidableEq

/-- `gmtime_r`, in the Gregorian calendar. It does not fail for the times of `system_clock`. -/
def gmtime (seconds : ℤ) : Tm :=
  -- years are counted from March, so that a leap day is the last day of its year
  let z := seconds / 86400 + 719468
  let era := z / 146097
  let doe := z - era * 146097
  let yoe := (doe - doe / 1460 + doe / 36524 - doe / 146096) / 365
  let doy := doe - (365 * yoe + yoe / 4 - yoe / 100)
  let mp := (5 * doy + 2) / 153
  let month := if mp < 10 then mp + 3 else mp - 9
  { year := yoe + era * 400 + if month ≤ 2 then 1 else 0
    month := month
    day := doy - (153 * mp + 2) / 5 + 1
    hour := seconds % 86400 / 3600
    minute := seconds % 3600 / 60
    second := seconds % 60 }

example : gmtime 1709210096 = ⟨2024, 2, 29, 12, 34, 56⟩ := by decide

namespace Logger

variable {raw : Option String} {level : Level} {component event text : Bytes} {fields : List Field}
  {moment : Moment}

/-! ### Writing a line -/

/-- `threshold`, for the value of `LOG_LEVEL`. -/
def threshold (raw : Option String) : Level :=
  let value := raw.getD "INFO"
  if value = "DEBUG" ∨ value = "debug" then .debug
  else if value = "WARN" ∨ value = "warn" then .warn
  else if value = "ERROR" ∨ value = "error" then .error
  else if value = "OFF" ∨ value = "off" then .off
  else .info

/-- `enabled`. -/
def enabled (raw : Option String) (level : Level) : Bool :=
  level ≠ .off ∧ threshold raw ≠ .off ∧ (threshold raw).rank ≤ level.rank

/-- `name`. -/
def name : Level → String
  | .debug => "DEBUG"
  | .info => "INFO"
  | .warn => "WARN"
  | .error => "ERROR"
  | .off => "OFF"

/-- The names of the fields that are shown. -/
def keys : List String :=
  ["operation", "operation_id", "elapsed_us", "outcome", "status", "code", "kind", "worker_id",
    "session_id", "fd", "count", "rows", "bytes", "attempt", "opcode", "port", "success", "reason",
    "pending", "method"]

/-- `allowed`. -/
def allowed (key : Bytes) : Bool := keys.any fun entry => key = utf8 entry

/-- One byte inside quotes. -/
def quoteByte (c : UInt8) : List Char :=
  if c = '"'.toUInt8 ∨ c = '\\'.toUInt8 then ['\\', Char.ofNat c.toNat]
  else if c < 32 ∨ 127 ≤ c then ['\\', 'u', '0', '0'] ++ hexOfByte c
  else [Char.ofNat c.toNat]

/-- What `quote` writes between the quotes. -/
def quoteBody (text : Bytes) : List Char :=
  (text.take 192).flatMap quoteByte ++ if 192 < text.length then ['.', '.', '.'] else []

/-- `quote`. -/
def quote (text : Bytes) : List Char := '"' :: quoteBody text ++ ['"']

/-- The visitor of `write`. -/
def valueText : FieldValue → List Char
  | .string text => quote text
  | .int64 number => (toString number.toInt).toList
  | .uint64 number => (toString (number.toNat : ℤ)).toList
  | .boolean flag => (toString flag).toList

/-- One field; a value is shown only under a name that is allowed. -/
def fieldText (field : Field) : List Char :=
  quote field.name ++ ':' ::
    if allowed field.name then valueText field.value else quote (utf8 "[REDACTED]")

/-- The loop over the fields. -/
def fieldsText : (first : Bool) → List Field → List Char
  | _, [] => []
  | first, field :: fields => (if first then [] else [',']) ++ fieldText field ++ fieldsText false fields

/-- A number in a field of some width, filled with zeros. -/
def padded (width : ℕ) (number : ℤ) : List Char :=
  let digits := (toString number).toList
  List.replicate (width - digits.length) '0' ++ digits

/-- `put_time` with `%Y-%m-%dT%H:%M:%S`. -/
def putTime (utc : Tm) : List Char :=
  (toString utc.year).toList ++ '-' :: padded 2 utc.month ++ '-' :: padded 2 utc.day ++
    'T' :: padded 2 utc.hour ++ ':' :: padded 2 utc.minute ++ ':' :: padded 2 utc.second

/-- The text of the time. `to_time_t` and the division into milliseconds round towards zero. -/
def timestamp (now : ℤ) : List Char :=
  putTime (gmtime (now.tdiv 1000000000)) ++ '.' :: padded 3 ((now.tdiv 1000000).tmod 1000) ++ ['Z']

/-- The line that `write` puts together. -/
def line (moment : Moment) (level : Level) (component event : Bytes) (fields : List Field) :
    List Char :=
  "\x7b\"timestamp\":\"".toList ++ timestamp moment.now ++ "\",\"level\":".toList ++
    quote (utf8 (name level)) ++
    ",\"thread_id\":\"".toList ++ (toString (moment.threadId.toNat : ℤ)).toList ++ ['"'] ++
    ",\"component\":".toList ++ quote component ++
    ",\"event\":".toList ++ quote event ++
    ",\"fields\":\x7b".toList ++ fieldsText true fields ++ "\x7d\x7d\n".toList

/-- `write`: what goes to the standard error, if anything. -/
def write (raw : Option String) (moment : Moment) (level : Level) (component event : Bytes)
    (fields : List Field) : Option (List Char) :=
  if enabled raw level then some (line moment level component event fields) else none

/-! ### What a line stands for -/

/-- A text stands for its first 192 bytes, each as the code point of that number, and for three dots if
there are more. -/
def shown (text : Bytes) : List ℕ :=
  (text.take 192).map UInt8.toNat ++ if 192 < text.length then "...".toList.map Char.toNat else []

/-- The characters of a name that the logger writes itself. -/
def units (text : String) : List ℕ := text.toList.map Char.toNat

/-- What a value stands for. -/
def shownValue : FieldValue → Value
  | .string text => .string (shown text)
  | .int64 number => .integer number.toInt
  | .uint64 number => .integer number.toNat
  | .boolean flag => .boolean flag

/-- A field with its value, if it may be shown. -/
def shownField (field : Field) : List ℕ × Value :=
  (shown field.name,
    if allowed field.name then shownValue field.value else .string (units "[REDACTED]"))

/-- The object of a line. -/
def shownLine (moment : Moment) (level : Level) (component event : Bytes) (fields : List Field) :
    Value :=
  .object [(units "timestamp", .string ((timestamp moment.now).map Char.toNat)),
    (units "level", .string (units (name level))),
    (units "thread_id", .string ((toString (moment.threadId.toNat : ℤ)).toList.map Char.toNat)),
    (units "component", .string (shown component)),
    (units "event", .string (shown event)),
    (units "fields", .object (fields.map shownField))]

/-! ### Quoted texts -/

theorem hexDigitValue_hexDigit {n : ℕ} (h : n < 16) : hexDigitValue (hexDigit n) = some n := by
  have hall : ∀ n < 16, hexDigitValue (hexDigit n) = some n := by decide
  exact hall n h

/-- A printable character. -/
theorem printable_ofNat {n : ℕ} (h₀ : 32 ≤ n) (h₁ : n < 127) :
    (Char.ofNat n).toNat = n ∧ ' ' ≤ Char.ofNat n ∧ Char.ofNat n ≤ '~' := by
  have hall : ∀ n < 127, 32 ≤ n →
      (Char.ofNat n).toNat = n ∧ ' ' ≤ Char.ofNat n ∧ Char.ofNat n ≤ '~' := by decide
  exact hall n h₁ h₀

/-- **One byte inside quotes** stands for the code point of its number. -/
theorem escapes_quoteByte (c : UInt8) : Escapes (quoteByte c) [c.toNat] := by
  unfold quoteByte
  split_ifs with hescaped hcontrol
  · rcases hescaped with rfl | rfl
    · exact escapes_escaped (.inl rfl)
    · exact escapes_escaped (.inr rfl)
  · have hlt : c.toNat < 256 := c.toNat_lt
    refine escapes_unit ?_
    rw [hexUnit, hexDigitValue_hexDigit (show c.toNat / 16 < 16 by omega),
      hexDigitValue_hexDigit (show c.toNat % 16 < 16 by omega)]
    have hzero : hexDigitValue '0' = some 0 := by decide
    rw [hzero]
    simp only [bind, Option.bind, pure, Option.some.injEq]
    omega
  · rw [not_or] at hescaped hcontrol
    have h₀ : 32 ≤ c.toNat := by
      have := UInt8.not_lt.mp hcontrol.1
      exact UInt8.le_iff_toNat_le.mp this
    have h₁ : c.toNat < 127 := UInt8.lt_iff_toNat_lt.mp (UInt8.not_le.mp hcontrol.2)
    obtain ⟨hnat, hprintable⟩ := printable_ofNat h₀ h₁
    have hne : ∀ d : Char, d.toUInt8.toNat = d.toNat → c ≠ d.toUInt8 → Char.ofNat c.toNat ≠ d := by
      intro d hd hc he
      rw [he] at hnat
      exact hc (UInt8.toNat_inj.mp (hnat.symm.trans hd.symm))
    have hescapes := escapes_plain hprintable (hne _ (by decide) hescaped.1) (hne _ (by decide) hescaped.2)
    rwa [hnat] at hescapes

/-- **A quoted text** stands for its first 192 bytes, and for three dots if it is longer. -/
theorem escapes_quote (text : Bytes) : Escapes (quoteBody text) (shown text) := by
  refine (escapes_flatMap fun c _ => escapes_quoteByte c).append ?_
  split_ifs
  · exact escapes_plains (forall_mem_of_all (by decide))
  · exact escapes_nil

theorem reads_quote (text : Bytes) : Reads (quote text) (.string (shown text)) :=
  reads_string (escapes_quote text)

/-- A short text in ASCII stands for itself. -/
theorem shown_utf8 {name : String} (h : (utf8 name).map UInt8.toNat = units name)
    (hlen : (utf8 name).length ≤ 192) : shown (utf8 name) = units name := by
  rw [shown, if_neg (not_lt.mpr hlen), List.append_nil, List.take_of_length_le hlen, h]

/-! ### Fields -/

theorem reads_valueText (value : FieldValue) : Reads (valueText value) (shownValue value) := by
  cases value with
  | string text => exact reads_quote text
  | int64 number => exact reads_integer _
  | uint64 number => exact reads_integer _
  | boolean flag => exact reads_boolean flag

theorem readsMember_fieldText (field : Field) : ReadsMember (fieldText field) (shownField field) := by
  refine ⟨quoteBody field.name,
    if allowed field.name then valueText field.value else quote (utf8 "[REDACTED]"),
    by simp [fieldText, quote], escapes_quote _, ?_⟩
  rw [shownField]
  split_ifs
  · exact reads_valueText field.value
  · have hredacted : shown (utf8 "[REDACTED]") = units "[REDACTED]" :=
      shown_utf8 (by decide) (by decide)
    exact hredacted ▸ reads_quote _

/-- The loop puts commas between the fields. -/
theorem fieldsText_true (fields : List Field) :
    fieldsText true fields = List.intercalate [','] (fields.map fieldText) := by
  induction fields with
  | nil => rfl
  | cons field fields ih =>
    cases fields with
    | nil => simp [fieldsText]
    | cons field' fields =>
      rw [List.map_cons, List.map_cons, List.intercalate_cons_cons, ← List.map_cons, ← ih]
      simp [fieldsText]

/-- **The fields** of a line. -/
theorem reads_fields (fields : List Field) :
    Reads ('\x7b' :: fieldsText true fields ++ ['\x7d']) (.object (fields.map shownField)) := by
  rw [fieldsText_true]
  refine reads_object ?_
  induction fields with
  | nil => exact .nil
  | cons field fields ih => exact .cons (readsMember_fieldText field) ih

/-! ### The whole line -/

/-- A character that stands for itself inside quotes. -/
def Plain (c : Char) : Prop := (' ' ≤ c ∧ c ≤ '~') ∧ c ≠ '"' ∧ c ≠ '\\'

instance : DecidablePred Plain := fun _ => inferInstanceAs (Decidable (_ ∧ _ ∧ _))

theorem plain_of_isDigit {c : Char} (h : c.isDigit = true) : Plain c := by
  have hall : ∀ n < 58, 48 ≤ n → Plain (Char.ofNat n) := by decide
  rw [Char.isDigit, Bool.and_eq_true, decide_eq_true_eq, decide_eq_true_eq] at h
  have hle : c.toNat < 58 := Nat.lt_succ_of_le (UInt32.le_iff_toNat_le.mp h.2)
  have hplain := hall c.toNat hle (UInt32.le_iff_toNat_le.mp h.1)
  rwa [Char.ofNat_toNat] at hplain

theorem plain_toString (n : ℤ) : ∀ c ∈ (toString n).toList, Plain c := by
  intro c hc
  rcases isDigit_or_of_mem hc with hdigit | rfl
  · exact plain_of_isDigit hdigit
  · decide

theorem plain_padded (width : ℕ) (n : ℤ) : ∀ c ∈ padded width n, Plain c := by
  intro c hc
  rcases List.mem_append.mp hc with hc | hc
  · rw [List.eq_of_mem_replicate hc]
    decide
  · exact plain_toString n c hc

theorem plain_timestamp (now : ℤ) : ∀ c ∈ timestamp now, Plain c := by
  have hpadded := plain_padded 2
  have hmillis := plain_padded 3 ((now.tdiv 1000000).tmod 1000)
  have hyear := plain_toString (gmtime (now.tdiv 1000000000)).year
  have hsigns : ∀ c ∈ ['-', 'T', ':', '.', 'Z'], Plain c := forall_mem_of_all (by decide)
  intro c hc
  simp only [timestamp, putTime, List.mem_append, List.mem_cons, List.not_mem_nil, or_false] at hc
  grind

/-- The members that `line` writes. -/
def lineMembers (moment : Moment) (level : Level) (component event : Bytes) (fields : List Field) :
    List (List Char) :=
  ["\"timestamp\":\"".toList ++ timestamp moment.now ++ ['"'],
    "\"level\":".toList ++ quote (utf8 (name level)),
    "\"thread_id\":\"".toList ++ (toString (moment.threadId.toNat : ℤ)).toList ++ ['"'],
    "\"component\":".toList ++ quote component,
    "\"event\":".toList ++ quote event,
    "\"fields\":".toList ++ ('\x7b' :: fieldsText true fields ++ ['\x7d'])]

theorem line_eq : line moment level component event fields =
    '\x7b' :: List.intercalate [','] (lineMembers moment level component event fields) ++
      ['\x7d'] ++ ['\n'] := by
  have hopen : "\x7b\"timestamp\":\"".toList = '\x7b' :: "\"timestamp\":\"".toList := rfl
  have hlevel : "\",\"level\":".toList = '"' :: ',' :: "\"level\":".toList := rfl
  have hthread : ",\"thread_id\":\"".toList = ',' :: "\"thread_id\":\"".toList := rfl
  have hcomponent : ",\"component\":".toList = ',' :: "\"component\":".toList := rfl
  have hevent : ",\"event\":".toList = ',' :: "\"event\":".toList := rfl
  have hfields : ",\"fields\":\x7b".toList = ',' :: "\"fields\":".toList ++ ['\x7b'] := rfl
  have hclose : "\x7d\x7d\n".toList = ['\x7d', '\x7d', '\n'] := rfl
  unfold line lineMembers
  rw [hopen, hlevel, hthread, hcomponent, hevent, hfields, hclose]
  simp only [List.intercalate_cons_cons, List.intercalate_singleton, List.append_assoc,
    List.cons_append, List.nil_append]

/-- A member with a name that the logger writes itself. -/
theorem readsMember_constant {name : String} {value : List Char} {v : Value}
    (hname : (name.toList.all fun c => decide (Plain c)) = true) (hvalue : Reads value v) :
    ReadsMember ('"' :: name.toList ++ '"' :: ':' :: value) (units name, v) :=
  ⟨name.toList, value, rfl, escapes_plains (forall_mem_of_all hname), hvalue⟩

theorem shown_name (level : Level) : shown (utf8 (name level)) = units (name level) := by
  cases level <;> exact shown_utf8 (by decide) (by decide)

/-- **A line is an object.** -/
theorem reads_line : Reads ('\x7b' ::
      List.intercalate [','] (lineMembers moment level component event fields) ++ ['\x7d'])
    (shownLine moment level component event fields) := by
  have htimestamp : "\"timestamp\":\"".toList ++ timestamp moment.now ++ ['"'] =
      '"' :: "timestamp".toList ++ '"' :: ':' :: ('"' :: timestamp moment.now ++ ['"']) := rfl
  have hlevel : "\"level\":".toList ++ quote (utf8 (name level)) =
      '"' :: "level".toList ++ '"' :: ':' :: quote (utf8 (name level)) := rfl
  have hthread : "\"thread_id\":\"".toList ++ (toString (moment.threadId.toNat : ℤ)).toList ++ ['"'] =
      '"' :: "thread_id".toList ++ '"' :: ':' ::
        ('"' :: (toString (moment.threadId.toNat : ℤ)).toList ++ ['"']) := rfl
  have hcomponent : "\"component\":".toList ++ quote component =
      '"' :: "component".toList ++ '"' :: ':' :: quote component := rfl
  have hevent : "\"event\":".toList ++ quote event =
      '"' :: "event".toList ++ '"' :: ':' :: quote event := rfl
  have hfields : "\"fields\":".toList ++ ('\x7b' :: fieldsText true fields ++ ['\x7d']) =
      '"' :: "fields".toList ++ '"' :: ':' :: ('\x7b' :: fieldsText true fields ++ ['\x7d']) := rfl
  refine reads_object ?_
  unfold lineMembers
  rw [htimestamp, hlevel, hthread, hcomponent, hevent, hfields]
  refine .cons (readsMember_constant (by decide) (reads_string (escapes_plains (plain_timestamp _)))) <|
    .cons (readsMember_constant (by decide) (shown_name level ▸ reads_quote _)) <|
    .cons (readsMember_constant (by decide) (reads_string (escapes_plains (plain_toString _)))) <|
    .cons (readsMember_constant (by decide) (reads_quote _)) <|
    .cons (readsMember_constant (by decide) (reads_quote _)) <|
    .cons (readsMember_constant (by decide) (reads_fields _)) .nil

/-! ### Printable characters -/

/-- The characters of ASCII that are not control characters. -/
def Printable (cs : List Char) : Prop := ∀ c ∈ cs, ' ' ≤ c ∧ c ≤ '~'

theorem Printable.append {a b : List Char} (ha : Printable a) (hb : Printable b) :
    Printable (a ++ b) := by
  intro c hc
  rcases List.mem_append.mp hc with hc | hc
  · exact ha c hc
  · exact hb c hc

theorem Printable.cons {c : Char} {cs : List Char} (hc : ' ' ≤ c ∧ c ≤ '~') (hcs : Printable cs) :
    Printable (c :: cs) :=
  List.forall_mem_cons.mpr ⟨hc, hcs⟩

theorem printable_of_plain {cs : List Char} (h : ∀ c ∈ cs, Plain c) : Printable cs :=
  fun c hc => (h c hc).1

theorem printable_literal {text : String}
    (h : (text.toList.all fun c => decide (' ' ≤ c ∧ c ≤ '~')) = true) : Printable text.toList :=
  forall_mem_of_all h

theorem printable_intercalate {texts : List (List Char)} (h : ∀ text ∈ texts, Printable text) :
    Printable (List.intercalate [','] texts) := by
  induction texts with
  | nil => exact fun c hc => absurd hc List.not_mem_nil
  | cons text texts ih =>
    obtain ⟨htext, htexts⟩ := List.forall_mem_cons.mp h
    cases texts with
    | nil => rwa [List.intercalate_singleton]
    | cons text' texts =>
      rw [List.intercalate_cons_cons]
      exact (htext.append (.cons (by decide) fun c hc => absurd hc List.not_mem_nil)).append (ih htexts)

theorem printable_quoteByte (c : UInt8) : Printable (quoteByte c) := by
  have hdigit : ∀ n < 16, ' ' ≤ hexDigit n ∧ hexDigit n ≤ '~' := by decide
  unfold quoteByte
  split_ifs with hescaped hcontrol
  · rcases hescaped with rfl | rfl <;> exact forall_mem_of_all (by decide)
  · have hlt : c.toNat < 256 := c.toNat_lt
    refine Printable.append (forall_mem_of_all (by decide)) ?_
    exact .cons (hdigit _ (by omega)) (.cons (hdigit _ (by omega)) fun c hc => absurd hc List.not_mem_nil)
  · rw [not_or] at hcontrol
    have h₀ : 32 ≤ c.toNat := UInt8.le_iff_toNat_le.mp (UInt8.not_lt.mp hcontrol.1)
    have h₁ : c.toNat < 127 := UInt8.lt_iff_toNat_lt.mp (UInt8.not_le.mp hcontrol.2)
    exact .cons (printable_ofNat h₀ h₁).2 fun c hc => absurd hc List.not_mem_nil

theorem printable_quote (text : Bytes) : Printable (quote text) := by
  refine Printable.append (.cons (by decide) (Printable.append ?_ ?_)) (forall_mem_of_all (by decide))
  · intro c hc
    obtain ⟨byte, -, hc⟩ := List.mem_flatMap.mp hc
    exact printable_quoteByte byte c hc
  · split_ifs
    · exact forall_mem_of_all (by decide)
    · exact fun c hc => absurd hc List.not_mem_nil

theorem printable_fieldText (field : Field) : Printable (fieldText field) := by
  refine (printable_quote _).append (.cons (by decide) ?_)
  split_ifs
  · cases field.value with
    | string text => exact printable_quote text
    | int64 number => exact printable_of_plain (plain_toString _)
    | uint64 number => exact printable_of_plain (plain_toString _)
    | boolean flag => cases flag <;> exact forall_mem_of_all (by decide)
  · exact printable_quote _

/-- **A line has no control characters** before its end. -/
theorem printable_line : Printable ('\x7b' ::
    List.intercalate [','] (lineMembers moment level component event fields) ++ ['\x7d']) := by
  have hquote : Printable ['"'] := forall_mem_of_all (by decide)
  refine Printable.append (.cons (by decide) (printable_intercalate ?_)) (forall_mem_of_all (by decide))
  unfold lineMembers
  refine List.forall_mem_cons.mpr ⟨?_, List.forall_mem_cons.mpr ⟨?_, List.forall_mem_cons.mpr ⟨?_,
    List.forall_mem_cons.mpr ⟨?_, List.forall_mem_cons.mpr ⟨?_, List.forall_mem_singleton.mpr ?_⟩⟩⟩⟩⟩
  · exact ((printable_literal (by decide)).append (printable_of_plain (plain_timestamp _))).append hquote
  · exact (printable_literal (by decide)).append (printable_quote _)
  · exact ((printable_literal (by decide)).append (printable_of_plain (plain_toString _))).append hquote
  · exact (printable_literal (by decide)).append (printable_quote _)
  · exact (printable_literal (by decide)).append (printable_quote _)
  · refine (printable_literal (by decide)).append (Printable.append (.cons (by decide) ?_)
      (forall_mem_of_all (by decide)))
    rw [fieldsText_true]
    refine printable_intercalate fun text htext => ?_
    obtain ⟨field, -, rfl⟩ := List.mem_map.mp htext
    exact printable_fieldText field

/-! ### What is not shown -/

/-- The fields differ in nothing but a value that is not shown. -/
def SameShown (a b : Field) : Prop := a.name = b.name ∧ (allowed a.name = true → a.value = b.value)

theorem fieldText_congr {a b : Field} (h : SameShown a b) : fieldText a = fieldText b := by
  obtain ⟨hname, hvalue⟩ := h
  rw [fieldText, fieldText, ← hname]
  by_cases hallowed : allowed a.name = true
  · rw [hvalue hallowed]
  · rw [if_neg hallowed, if_neg hallowed]

theorem fieldsText_congr {a b : List Field} (h : List.Forall₂ SameShown a b) (first : Bool) :
    fieldsText first a = fieldsText first b := by
  induction h generalizing first with
  | nil => rfl
  | cons hfield _ ih => rw [fieldsText, fieldsText, fieldText_congr hfield, ih]

/-- **Values that are not shown do not matter.** -/
theorem write_congr {fields' : List Field} (h : List.Forall₂ SameShown fields fields') :
    write raw moment level component event fields = write raw moment level component event fields' := by
  unfold write line
  rw [fieldsText_congr h]

end Logger

open Logger in
/-- **Log lines are well-formed and leak nothing.** At or above the threshold, what is written is one line
of printable ASCII, and its text is the JSON of the object that shows the fields; and the line stays the
same if the values of fields that are not allowed are others. -/
theorem log_lines_well_formed {raw : Option String} {level : Level} (hlevel : level ≠ .off)
    (hthreshold : (threshold raw).rank ≤ level.rank) (moment : Moment) (component event : Bytes)
    (fields : List Field) :
    ∃ body, write raw moment level component event fields = some (body ++ ['\n']) ∧
      Printable body ∧ read body = some (shownLine moment level component event fields) ∧
      ∀ fields', List.Forall₂ SameShown fields fields' →
        write raw moment level component event fields' = some (body ++ ['\n']) := by
  have henabled : enabled raw level = true := by
    have hne : threshold raw ≠ .off := by
      intro he
      rw [he] at hthreshold
      cases level with
      | off => exact hlevel rfl
      | _ => exact absurd hthreshold (by decide)
    simp [enabled, hlevel, hne, hthreshold]
  have hwrite : write raw moment level component event fields = some ('\x7b' ::
      List.intercalate [','] (lineMembers moment level component event fields) ++ ['\x7d'] ++ ['\n']) := by
    rw [write, if_pos henabled, line_eq]
  exact ⟨_, hwrite, printable_line, read_of_reads reads_line,
    fun fields' h => (write_congr h).symm.trans hwrite⟩

/-- A line with a password, which is not shown, and a text with a line break, which is escaped. -/
theorem log_lines_well_formed_login : ∃ body,
    Logger.write none ⟨1709210096789000000, 139872⟩ .warn (utf8 "auth") (utf8 "login")
      [⟨utf8 "password", .string (utf8 "secret")⟩, ⟨utf8 "count", .int64 (-3)⟩] =
        some (body ++ ['\n']) ∧
      ∀ password, Logger.write none ⟨1709210096789000000, 139872⟩ .warn (utf8 "auth") (utf8 "login")
        [⟨utf8 "password", .string password⟩, ⟨utf8 "count", .int64 (-3)⟩] = some (body ++ ['\n']) := by
  obtain ⟨body, hwrite, -, -, hsame⟩ := @log_lines_well_formed none .warn
    (by decide) (by decide) ⟨1709210096789000000, 139872⟩ (utf8 "auth") (utf8 "login")
    [⟨utf8 "password", .string (utf8 "secret")⟩, ⟨utf8 "count", .int64 (-3)⟩]
  refine ⟨body, hwrite, fun password => hsame _ (.cons ⟨rfl, fun h => ?_⟩ (.cons ⟨rfl, fun _ => rfl⟩ .nil))⟩
  exact absurd h (by decide)

end ChatBackend
