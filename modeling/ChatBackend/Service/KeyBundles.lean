import ChatBackend.Store.KeyBundles

/-!
# Fetching registered key bundles

A device's bundle is stored by its registration and never changes but for its expiry. The handler
accepts every identifier up to `2 ^ 63 - 1`, while `getDeviceKeyBundle` reads the column as an
`int`: the bundles that can be fetched are those whose identifier is below `2 ^ 31`.

## Main definitions

* `committedRegistration` — the registration that an event committed
* `MaySee`, `FetchesBack`

## Main results

* `Holds.of_steps` — a registered bundle stays
* `registered_bundle_fetched_iff`
-/

namespace ChatBackend

open ReadCommitted

variable {P : Platform} {allows : List StoreEvent → Call → Prop} {db db' db₀ : Db} {user : Uuid}
  {bundle : BundleRow}

/-! ### A device and its bundle -/

/-- The device of the bundle is the user's, and the bundle is its only one, up to the expiry. -/
structure Holds (user : Uuid) (bundle : BundleRow) (db : Db) : Prop where
  owner : ∃ row, db.userDevices bundle.deviceId = some row ∧ row.userId = user
  bundles : ∃ expiresAt, (db.deviceKeyBundles.filter fun b => b.deviceId = bundle.deviceId) =
    [{ bundle with expiresAt := expiresAt }]

/-- A write that adds no second bundle keeps the device and the bundle. -/
theorem Holds.write (h : Holds user bundle db) {w : Write}
    (hw : ∀ new, w = .insertBundle new → new.deviceId ≠ bundle.deviceId) :
    Holds user bundle (db.write w) := by
  obtain ⟨⟨row, hrow, huser⟩, at', hbundles⟩ := h
  cases w with
  | insertDevice id new =>
    refine ⟨⟨row, ?_, huser⟩, at', hbundles⟩
    by_cases hid : id = bundle.deviceId
    · subst hid
      simp [Db.write, hrow]
    · simp [Db.write, Function.update_of_ne (Ne.symm hid), hrow]
  | revokeDevice id now =>
    by_cases hid : id = bundle.deviceId
    · refine ⟨⟨{ row with status := .revoked, revokedAt := some now }, ?_, huser⟩, at', hbundles⟩
      simp [Db.write, hid, hrow]
    · exact ⟨⟨row, by simp [Db.write, Function.update_of_ne (Ne.symm hid), hrow], huser⟩, at',
        hbundles⟩
  | insertBundle new =>
    refine ⟨⟨row, hrow, huser⟩, at', ?_⟩
    rw [Db.write, List.filter_append, hbundles, List.filter_singleton]
    simp [hw new rfl]
  | expireBundle d v now =>
    refine ⟨⟨row, hrow, huser⟩, ?_⟩
    -- the selection goes by the device, which the change of the expiry keeps
    have hdevice : ∀ b : BundleRow, (if b.deviceId = d ∧ b.keyVersion = v then
        { b with expiresAt := some now } else b).deviceId = b.deviceId := by
      intro b
      split_ifs <;> rfl
    rw [Db.write, List.filter_map, Function.comp_def]
    simp only [hdevice]
    rw [hbundles, List.map_singleton]
    by_cases hkey : bundle.deviceId = d ∧ bundle.keyVersion = v
    · exact ⟨some now, by rw [if_pos hkey]⟩
    · exact ⟨at', by rw [if_neg hkey]⟩
  | _ => exact ⟨⟨row, hrow, huser⟩, at', hbundles⟩

theorem Holds.commit (h : Holds user bundle db) {call : Call} {r : Reply} {seen : List Db}
    {ws : List Write} (hc : Committed P call r seen ws db) :
    Holds user bundle ((schema P).applyAll ws db) := by
  refine (schema P).applyAll_induct (P := Holds user bundle)
    (fun w hw x hx => hx.write fun new hnew hdevice => ?_) h
  -- another bundle of the device would come with the device, which is there already
  obtain ⟨hfree, -⟩ := hc.insertBundle (hnew ▸ hw)
  obtain ⟨row, hrow, -⟩ := h.owner
  rw [hdevice, hrow] at hfree
  cases hfree

/-- **A registered bundle stays**, in every later state of a run. -/
theorem Holds.of_steps {x y : StoreState} (h : Serial.Steps (store P allows) (Stored P) x y)
    (hx : Holds user bundle x.db) : Holds user bundle y.db := by
  refine Serial.induction (P := fun y => Holds user bundle y.db) (fun y e he hy => ?_)
    (fun y db hd hy => ?_) h hx
  · rcases he.writes with hw | ⟨r, hr⟩
    · rw [Serial.State.db_after, hw]
      exact hy
    · exact hy.commit hr.1
  · obtain ⟨now, -, rfl⟩ := hd
    exact ⟨hy.owner, hy.bundles⟩

/-! ### Registrations -/

/-- The owner of a device that a write adds, and the device. -/
def Write.newDevice : Write → Option (Uuid × Uuid)
  | .insertDevice deviceId row => some (row.userId, deviceId)
  | _ => none

/-- The ticket and the input of a registration that committed, with the user and the device. -/
def committedRegistration (e : StoreEvent) :
    Option ((String × DeviceRegistrationInput) × Uuid × Uuid) :=
  match e.call with
  | .registerDevice ticket input _ =>
    (e.writes.findSome? Write.newDevice).map fun device => ((ticket, input), device)
  | _ => none

theorem committedRegistration_eq_some {e : StoreEvent} {ticket : String}
    {input : DeviceRegistrationInput} {device : Uuid}
    (h : committedRegistration e = some ((ticket, input), user, device)) :
    (∃ refreshToken, e.call = .registerDevice ticket input refreshToken) ∧
      e.writes.findSome? Write.newDevice = some (user, device) := by
  unfold committedRegistration at h
  split at h
  · next ticket' input' refreshToken hcall =>
    obtain ⟨found, hfound, heq⟩ := Option.map_eq_some_iff.mp h
    simp only [Prod.mk.injEq] at heq
    obtain ⟨⟨rfl, rfl⟩, rfl⟩ := heq
    exact ⟨⟨refreshToken, hcall⟩, hfound⟩
  · cases h

/-- What a committed registration leaves. -/
theorem holds_of_stored {ticket : String} {input : DeviceRegistrationInput} {refreshToken : String}
    {r : Reply} {seen : List Db} {ws : List Write} {device : Uuid}
    (h : Stored P (.registerDevice ticket input refreshToken) r seen ws db)
    (hbundles : BundlesHaveDevices db) (hnew : ws.findSome? Write.newDevice = some (user, device)) :
    ∃ bundle, bundle.deviceId = device ∧ StoresInput P input bundle ∧
      Holds user bundle ((schema P).applyAll ws db) := by
  obtain ⟨hcommitted, hstored⟩ := h
  cases hcommitted with
  | registerDevice hspec =>
    cases hspec with
    | verified => cases hnew
    | refused => cases hnew
    | registered _ _ target row bundle token _ _ _ _ hfree hr _ =>
      obtain ⟨rfl, rfl⟩ := Prod.ext_iff.mp (Option.some.inj hnew)
      refine ⟨bundle, hr.bundleDevice, hstored _ _ _ rfl bundle (by simp), ⟨row, ?_, rfl⟩,
        bundle.expiresAt, ?_⟩
      · rw [hr.bundleDevice]
        simp [Db.write, hfree]
      · -- the device is new, so no bundle of it was there before
        have hnone : ∀ b ∈ db.deviceKeyBundles, b.deviceId ≠ target := by
          intro b hb he
          have := hbundles b hb
          rw [he, hfree] at this
          cases this
        have hold : (db.deviceKeyBundles.filter fun b => b.deviceId = bundle.deviceId) = [] := by
          rw [hr.bundleDevice]
          exact List.filter_eq_nil_iff.mpr fun b hb => by simpa using hnone b hb
        simp [Db.write, hold]

/-! ### Reading what was registered -/

/-- PostgreSQL's `bigint` accepts the digits of every number it can hold. -/
def Platform.ReadsDecimals (P : Platform) : Prop :=
  ∀ text : String, text.toList ≠ [] → (∀ c ∈ text.toList, c.isDigit) → decimalValue text < 2 ^ 63 →
    P.bigintIn text = some (decimalValue text : ℤ)

/-- Without white space, `decode` reads pairs of digits. -/
theorem decodeHexChars_eq_bytesOfHex {cs : List Char}
    (h : ∀ c ∈ cs, c ∉ [' ', '\n', '\t', '\r']) : decodeHexChars cs = bytesOfHex cs := by
  fun_induction bytesOfHex cs with
  | case1 => rfl
  | case2 c => simp only [decodeHexChars, if_neg (h c (List.mem_cons_self ..))]
  | case3 c d rest ih =>
    simp only [decodeHexChars, if_neg (h c (List.mem_cons_self ..))]
    rw [ih fun x hx => h x (List.mem_cons_of_mem _ (List.mem_cons_of_mem _ hx))]

/-- The characters of an accepted key are neither NUL nor white space. -/
theorem ne_of_isHexOfSize {text : String} {byteCount : ℕ} (h : isHexOfSize text byteCount) :
    ∀ c ∈ text.toList, c ≠ '\x00' ∧ c ∉ [' ', '\n', '\t', '\r'] := by
  intro c hc
  rw [isHexOfSize, Bool.and_eq_true] at h
  have hdigit := List.all_eq_true.mp h.2 c hc
  have excluded : ∀ x ∈ ['\x00', ' ', '\n', '\t', '\r'], ((('0' ≤ x && x ≤ '9') ||
      ('a' ≤ x && x ≤ 'f')) || ('A' ≤ x && x ≤ 'F')) = false := forall_mem_of_all (by decide)
  have hnot : c ∉ ['\x00', ' ', '\n', '\t', '\r'] := by
    intro hmem
    rw [excluded c hmem] at hdigit
    cases hdigit
  rw [List.mem_cons, not_or] at hnot
  exact hnot

/-- The bytes stored for an accepted key are those its digits spell. -/
theorem bytesOfHex_of_decodeHex {text : String} {byteCount : ℕ} {bytes : Bytes}
    (h : isHexOfSize text byteCount) (hdecode : decodeHex (cString text) = some bytes) :
    bytesOfHex text.toList = some bytes := by
  have hchars := ne_of_isHexOfSize h
  rw [cString_eq_self fun hmem => (hchars _ hmem).1 rfl, decodeHex,
    decodeHexChars_eq_bytesOfHex fun c hc => (hchars c hc).2] at hdecode
  exact hdecode

/-- The number stored for an accepted identifier is the one its digits spell. -/
theorem prekeyId_of_stores {input : DeviceRegistrationInput} (hP : P.ReadsDecimals)
    (hvalid : input.Valid) (h : StoresInput P input bundle) :
    bundle.signedPrekeyId = decimalValue input.signedPrekeyId := by
  have hnul : '\x00' ∉ input.signedPrekeyId.toList := by
    intro hmem
    exact absurd (hvalid.prekeyDigits _ hmem) (by decide)
  have hread := hP _ hvalid.prekeyNonempty hvalid.prekeyDigits hvalid.prekeyFits
  have hstored := h.prekeyId
  rw [cString_eq_self hnul, hread] at hstored
  exact (Option.some.inj hstored).symm

/-! ### Who may see a device -/

/-- The device is active, as are its owner's account and the caller's, its bundle has not expired at
`now`, and the caller is the owner or a friend. -/
structure MaySee (db : Db) (now : Time) (me user device : Uuid) : Prop where
  active : db.activeOwner device = some user
  account : db.isActive me
  related : me = user ∨ db.friendRelation me user
  notExpired : ∀ bundle ∈ db.deviceKeyBundles, bundle.deviceId = device →
    ∀ at' ∈ bundle.expiresAt, now < at'

/-- The result is a bundle, with the registered identifier as a number and the registered bytes. -/
def FetchesBack (input : DeviceRegistrationInput) (device : Uuid)
    (result : Except Error (Option DeviceKeyBundle)) : Prop :=
  ∃ bundle, result = .ok (some bundle) ∧ bundle.deviceId = device ∧
    bundle.signedPreKeyId = decimalValue input.signedPrekeyId ∧
    bytesOfHex input.signedPrekeyPublicHex.toList = some bundle.preKeyPublic ∧
    bytesOfHex input.signedPrekeySignatureHex.toList = some bundle.preKeySignature

/-- The query of a caller who may see the device finds its bundle. -/
theorem keyBundles_of_holds {now : Time} {me device : Uuid} (h : Holds user bundle db)
    (hdevice : bundle.deviceId = device) (hcurrent : bundle.isCurrent)
    (hsee : MaySee db now me user device) :
    ∃ expiresAt, db.keyBundles now user me device = [{ bundle with expiresAt := expiresAt }] := by
  obtain ⟨at', hbundles⟩ := h.bundles
  refine ⟨at', ?_⟩
  subst hdevice
  have hmem : { bundle with expiresAt := at' } ∈ db.deviceKeyBundles := by
    have hfound : { bundle with expiresAt := at' } ∈
        db.deviceKeyBundles.filter fun b => b.deviceId = bundle.deviceId := by
      rw [hbundles]
      exact List.mem_singleton_self _
    exact (List.mem_filter.mp hfound).1
  obtain ⟨row, hrow, huser, hactive, haccount⟩ := activeOwner_eq_some_iff.mp hsee.active
  have hshown : db.showsBundle now user me bundle.deviceId { bundle with expiresAt := at' } :=
    showsBundle_iff.mpr ⟨row, hrow, huser, rfl, hactive, huser ▸ haccount, hsee.account, hcurrent,
      hsee.notExpired _ hmem rfl, hsee.related⟩
  -- the query selects among the bundles of the device
  calc db.keyBundles now user me bundle.deviceId
      = (db.deviceKeyBundles.filter fun b => b.deviceId = bundle.deviceId).filter
          (db.showsBundle now user me bundle.deviceId) := by
        rw [List.filter_filter, Db.keyBundles]
        refine List.filter_congr fun kb _ => ?_
        by_cases hkb : db.showsBundle now user me bundle.deviceId kb
        · obtain ⟨_, -, -, hd, -⟩ := showsBundle_iff.mp hkb
          rw [hkb, decide_eq_true hd, Bool.and_self]
        · rw [Bool.eq_false_iff.mpr hkb, Bool.false_and]
    _ = [{ bundle with expiresAt := at' }] := by
        rw [hbundles, List.filter_singleton, hshown, cond_true]

/-! ### The law -/

/-- **Which registered bundles can be fetched back**: for every body that the handler accepts and
every run in which its registration has committed, whoever may see the device gets the registered
bundle if and only if the signed prekey's identifier fits an `int`. -/
theorem registered_bundle_fetched_iff {c : StoreConfig} (h : Reachable (store P allows) db₀ c)
    (h₀ : BundlesHaveDevices db₀) (hP : P.ReadsDecimals) {parser : JsonParser} {requestBody : Bytes}
    {ticket : String} {input : DeviceRegistrationInput}
    (haccepted : ChatHandler.registerNewDevice parser requestBody = .ok (ticket, input))
    {e : StoreEvent} (he : e ∈ c.log) {device : Uuid}
    (hcommitted : committedRegistration e = some ((ticket, input), user, device)) {now : Time}
    {me : Uuid} (hsee : MaySee c.db now me user device) :
    FetchesBack input device (KeyRepository.getDeviceKeyBundle c.db now user me device) ↔
      decimalValue input.signedPrekeyId ≤ 2147483647 := by
  have hvalid := ChatHandler.valid_of_registerNewDevice haccepted
  have hs : Serial.Reachable (store P allows) (Stored P) db₀ c.serial :=
    Reachable.serial (meets_stored P allows) h
  -- the bundle, when the registration commits and now
  obtain ⟨u, hu, hends, hux⟩ := hs.split_mem he
  obtain ⟨⟨refreshToken, hcall⟩, hnew⟩ := committedRegistration_eq_some hcommitted
  have hbundles : BundlesHaveDevices u.db :=
    bundlesHaveDevices_of_reachable (Serial.Steps.mono (fun _ _ _ _ _ hc => hc.1) hu) h₀
  obtain ⟨r, hspec⟩ : ∃ r, Stored P e.call r e.seen e.writes u.db := by
    refine hends.writes.resolve_left fun hnil => ?_
    rw [hnil] at hnew
    cases hnew
  rw [hcall] at hspec
  obtain ⟨bundle, hdevice, hstores, hholds⟩ := holds_of_stored hspec hbundles hnew
  have hlater : Holds user bundle c.db := Holds.of_steps hux hholds
  obtain ⟨at', hrows⟩ := keyBundles_of_holds hlater hdevice hstores.current hsee
  have hid := prekeyId_of_stores hP hvalid hstores
  rw [KeyRepository.getDeviceKeyBundle_of_row hrows hid]
  by_cases hfits : decimalValue input.signedPrekeyId < 2 ^ 31
  · rw [if_pos hfits]
    refine ⟨fun _ => by omega, fun _ => ⟨_, rfl, hdevice, rfl, ?_, ?_⟩⟩
    · exact bytesOfHex_of_decodeHex hvalid.prekeyPublic hstores.prekeyPublic
    · exact bytesOfHex_of_decodeHex hvalid.prekeySignature hstores.prekeySignature
  · rw [if_neg hfits]
    constructor
    · rintro ⟨b, hb, -⟩
      cases hb
    · intro hle
      omega

/-! ### A tablet is registered -/

namespace Sample

/-- The platform, with a `bigint` that reads every decimal number. -/
def decimalPlatform : Platform :=
  { platform with
    bigintIn := fun text =>
      if text.toList ≠ [] ∧ text.toList.all Char.isDigit ∧ decimalValue text < 2 ^ 63 then
        some (decimalValue text : ℤ) else none }

theorem decimalPlatform_readsDecimals : decimalPlatform.ReadsDecimals := by
  intro text hne hdigits hfits
  exact if_pos ⟨hne, List.all_eq_true.mpr hdigits, hfits⟩

/-- A key of 32 bytes, in upper and lower case digits. -/
def keyHex : String := "0A1b2C3d4E5f60718293a4B5c6D7e8F90A1b2C3d4E5f60718293a4B5c6D7e8F9"

/-- A registration with this identifier of the signed prekey. -/
def tabletRegistration (prekeyId : String) : DeviceRegistrationInput :=
  ⟨keyHex, "tablet", "v1", prekeyId, keyHex, keyHex ++ keyHex⟩

/-- The body of its request. -/
def registrationBody (prekeyId : String) : Json :=
  .object [("device_name", .string "tablet"), ("identity_public_key_hex", .string keyHex),
    ("login_ticket", .string ticket), ("protocol_suite", .string "v1"),
    ("signed_prekey_id", .string prekeyId), ("signed_prekey_public_hex", .string keyHex),
    ("signed_prekey_signature_hex", .string (keyHex ++ keyHex))]

/-- The body as it is sent. -/
def registrationText (prekeyId : String) : Bytes :=
  utf8 (String.ofList (Json.dump (fun _ => "") (registrationBody prekeyId)))

theorem registrationText_ne_nil (prekeyId : String) : registrationText prekeyId ≠ [] := by
  rw [registrationText, utf8, String.toList_ofList, registrationBody, Json.dump, List.flatMap_cons]
  exact List.append_ne_nil_of_left_ne_nil String.utf8EncodeChar_ne_nil _

/-- The parser, on one text. -/
def parserOf (text : Bytes) (body : Json) : JsonParser :=
  ⟨fun input => if input = text then some body else none⟩

theorem parserOf_parse (text : Bytes) (body : Json) : (parserOf text body).parse text = some body :=
  if_pos rfl

/-- The parser, on the text of the registration. -/
def registrationParser (prekeyId : String) : JsonParser :=
  parserOf (registrationText prekeyId) (registrationBody prekeyId)

theorem registerNewDevice_registration (prekeyId : String) :
    ChatHandler.registerNewDevice (registrationParser prekeyId) (registrationText prekeyId) =
      ChatHandler.readRegistration (registrationBody prekeyId) :=
  ChatHandler.registerNewDevice_of_parse (registrationText_ne_nil prekeyId) (parserOf_parse _ _) rfl

/-- Alice logs in and registers the tablet. -/
def registrationCalls (prekeyId : String) : List (Call × List Uuid) :=
  [(.issue alice (LoginTicketService.hashTicket decimalPlatform ticket), []),
    (.registerDevice ticket (tabletRegistration prekeyId) refreshToken, [13, 41])]

/-- The registration has committed, and Bob may see the tablet. -/
def bobMaySee (prekeyId : String) (c : StoreConfig) : Bool :=
  c.log.filterMap committedRegistration = [((ticket, tabletRegistration prekeyId), alice, 13)] ∧
    c.db.activeOwner 13 = some alice ∧ c.db.isActive bob ∧ c.db.friendRelation bob alice ∧
    c.db.deviceKeyBundles.all fun bundle => bundle.expiresAt.isNone

/-- A run in which the registration commits, and the handler accepts it. -/
theorem registration_run {prekeyId : String} {test : StoreConfig → Bool}
    (h : ((Config.initial start).runCalls (store decimalPlatform anyone)
      (registrationCalls prekeyId)).any fun c => bobMaySee prekeyId c && test c)
    (haccepted : (ChatHandler.readRegistration (registrationBody prekeyId)).toOption =
      some (ticket, tabletRegistration prekeyId)) :
    ∃ (c : StoreConfig) (e : StoreEvent), Reachable (store decimalPlatform anyone) start c ∧
      ChatHandler.registerNewDevice (registrationParser prekeyId) (registrationText prekeyId) =
        .ok (ticket, tabletRegistration prekeyId) ∧ e ∈ c.log ∧
      committedRegistration e = some ((ticket, tabletRegistration prekeyId), alice, 13) ∧
      MaySee c.db 0 bob alice 13 ∧ test c := by
  obtain ⟨c, hc, -, ht⟩ := Reachable.of_runCalls _ _ _ _ (fun _ _ _ => trivial) h
  obtain ⟨hsee, htest⟩ := Bool.and_eq_true_iff.mp ht
  obtain ⟨hlog, hactive, haccount, hfriend, hnone⟩ := of_decide_eq_true hsee
  have hmem : ((ticket, tabletRegistration prekeyId), alice, (13 : Uuid)) ∈
      c.log.filterMap committedRegistration := by
    rw [hlog]
    exact List.mem_singleton_self _
  obtain ⟨e, he, hregistration⟩ := List.mem_filterMap.mp hmem
  refine ⟨c, e, hc, ?_, he, hregistration, ⟨hactive, haccount, Or.inr hfriend, ?_⟩, htest⟩
  · rw [registerNewDevice_registration]
    cases hr : ChatHandler.readRegistration (registrationBody prekeyId) with
    | error response =>
      rw [hr] at haccepted
      cases haccepted
    | ok accepted =>
      rw [hr] at haccepted
      exact congrArg _ (Option.some.inj haccepted)
  · intro bundle hbundle _ at' hat
    have hisNone := List.all_eq_true.mp hnone bundle hbundle
    rw [Option.mem_def.mp hat] at hisNone
    cases hisNone

theorem start_bundlesHaveDevices : BundlesHaveDevices start :=
  fun _ hbundle => absurd hbundle List.not_mem_nil

end Sample

/-- The law for an identifier that fits: Bob gets the bundle of Alice's tablet. -/
theorem registered_bundle_fetched_iff_seven : ∃ c : StoreConfig,
    Reachable (store Sample.decimalPlatform Sample.anyone) Sample.start c ∧
    FetchesBack (Sample.tabletRegistration "7") 13
      (KeyRepository.getDeviceKeyBundle c.db 0 Sample.alice Sample.bob 13) := by
  obtain ⟨c, e, hc, haccepted, he, hregistration, hsee, -⟩ :=
    @Sample.registration_run "7" (fun _ => true) (by decide +kernel) (by decide +kernel)
  exact ⟨c, hc, (registered_bundle_fetched_iff hc Sample.start_bundlesHaveDevices
    Sample.decimalPlatform_readsDecimals haccepted he hregistration hsee).mpr (by decide)⟩

/-- **A registered bundle that nobody can fetch**: its identifier is accepted and stored, but is the
first that does not fit an `int`. -/
theorem registered_bundle_not_fetched : ∃ (c : StoreConfig) (e : StoreEvent),
    Reachable (store Sample.decimalPlatform Sample.anyone) Sample.start c ∧
    BundlesHaveDevices Sample.start ∧ Sample.decimalPlatform.ReadsDecimals ∧
    ChatHandler.registerNewDevice (Sample.registrationParser "2147483648")
      (Sample.registrationText "2147483648") =
        .ok (Sample.ticket, Sample.tabletRegistration "2147483648") ∧
    e ∈ c.log ∧
    committedRegistration e =
      some ((Sample.ticket, Sample.tabletRegistration "2147483648"), Sample.alice, 13) ∧
    MaySee c.db 0 Sample.bob Sample.alice 13 ∧
    ¬ FetchesBack (Sample.tabletRegistration "2147483648") 13
      (KeyRepository.getDeviceKeyBundle c.db 0 Sample.alice Sample.bob 13) := by
  obtain ⟨c, e, hc, haccepted, he, hregistration, hsee, hthrows⟩ :=
    @Sample.registration_run "2147483648" (fun c =>
      (KeyRepository.getDeviceKeyBundle c.db 0 Sample.alice Sample.bob 13).toOption.isNone)
      (by decide +kernel) (by decide +kernel)
  refine ⟨c, e, hc, Sample.start_bundlesHaveDevices, Sample.decimalPlatform_readsDecimals, haccepted,
    he, hregistration, hsee, ?_⟩
  rintro ⟨bundle, hresult, -⟩
  rw [hresult] at hthrows
  cases hthrows

end ChatBackend
