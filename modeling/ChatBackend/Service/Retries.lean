import ChatBackend.Service.ChatService
import ChatBackend.Store.Sequence
import ChatBackend.Websocket.Requests

/-!
# Retries

A client that has no answer sends its message again, with the same identifier. What it gets then
depends on the row that the first success left behind: the row stays the only one of its retry key,
and it holds what the parameters of the first request were on the server.

That is the request itself unless its `protocol_version` contains a NUL character: the parameter ends
there, while the comparison with the stored row is made with the whole text.

## Main definitions

* `resubmitted` — the result of a further request with the same identifier
* `RetryContract` — what holds after a success

## Main results

* `idempotent_retry`
* `idempotent_retry_nul` — a request that is refused as its own conflict
-/

namespace ChatBackend

open ReadCommitted EnvelopeRepository

variable {P : Platform} {allows : List StoreEvent → Call → Prop} {db db₀ : Db}

/-- The same message, as far as the store can tell: sent by the same device, to the same device,
under the same identifier. -/
def SameMessage (q q' : NewTextMessageRequest) : Prop :=
  q'.recipientDeviceId = q.recipientDeviceId ∧ q'.messageId = q.messageId

/-- What a further request for the message of `q`, stored as `E`, is answered with. -/
def resubmitted (q : NewTextMessageRequest) (E : Envelope) (q' : NewTextMessageRequest) :
    NewMessageResult :=
  if q' = q then ⟨.duplicateRequest, some E⟩ else ⟨.conflict, none⟩

/-- The text contains no U+0000. -/
def NulFree (text : String) : Prop := '\x00' ∉ text.toList

instance (text : String) : Decidable (NulFree text) := inferInstanceAs (Decidable (¬ _ ∈ _))

/-! ### The stored row -/

/-- The row of a successful request is the only one of its retry key. -/
def StoredOnce (sender : Uuid) (q : NewTextMessageRequest) (E : Envelope) (db : Db) : Prop :=
  0 < E.seq ∧ E = answered sender q E.envelopeId E.seq ∧
    db.envelopesFor sender q.recipientDeviceId q.messageId = [stored sender q E.envelopeId E.seq]

theorem envelopesFor_applyAll (ws : List Write) (db : Db) (sender recipient messageId : Uuid) :
    ((schema P).applyAll ws db).envelopesFor sender recipient messageId =
      db.envelopesFor sender recipient messageId ++ (inserted ws).filter fun e =>
        e.senderDeviceId = sender ∧ e.recipientDeviceId = recipient ∧ e.messageId = messageId := by
  change (((schema P).applyAll ws db).envelopes.filter _) = _
  rw [envelopes_applyAll, List.filter_append]
  rfl

/-- The success stores the row. -/
theorem StoredOnce.of_success {user sender : Uuid} {q : NewTextMessageRequest} {E : Envelope}
    {seen : List Db} {ws : List Write}
    (h : SaveSpec user sender q ⟨.success, some E⟩ seen ws db) :
    StoredOnce sender q E ((schema P).applyAll ws db) := by
  generalize hr : (⟨.success, some E⟩ : NewMessageResult) = r at h
  cases h with
  | success id hp hfree hid hpos hmax =>
    obtain rfl : E = _ := Option.some.inj (congrArg NewMessageResult.envelope hr)
    refine ⟨hpos, rfl, ?_⟩
    rw [envelopesFor_applyAll, hfree]
    simp [answered, stored]
  | duplicate => cases hr
  | conflict => cases hr
  | permissionDenied => cases hr

/-- **The step.** No call adds another row of the key. -/
theorem StoredOnce.commit {sender : Uuid} {q : NewTextMessageRequest} {E : Envelope}
    (h : StoredOnce sender q E db) {call : Call} {r : Reply} {seen : List Db} {ws : List Write}
    (hc : Committed P call r seen ws db) : StoredOnce sender q E ((schema P).applyAll ws db) := by
  obtain ⟨hpos, hE, hrow⟩ := h
  refine ⟨hpos, hE, ?_⟩
  rw [envelopesFor_applyAll, hrow]
  rcases hc.inserts with hnone | ⟨user, sender', q', id, -, -, hone, -, -, -, hfree⟩
  · rw [hnone, List.filter_nil, List.append_nil]
  · rw [hone, List.filter_eq_nil_iff.mpr, List.append_nil]
    intro e he hkey
    obtain rfl := List.mem_singleton.mp he
    obtain ⟨hs, hr, hm⟩ := of_decide_eq_true hkey
    -- its key was free when it was inserted, so it is another key
    rw [show sender' = sender from hs, show q'.recipientDeviceId = q.recipientDeviceId from hr,
      show q'.messageId = q.messageId from hm, hrow] at hfree
    cases hfree

theorem storedOnce_of_steps {sender : Uuid} {q : NewTextMessageRequest} {E : Envelope}
    {x y : StoreState} (h : Serial.Steps (store P allows) (Committed P) x y)
    (hx : StoredOnce sender q E x.db) : StoredOnce sender q E y.db := by
  refine h.rel (R := fun a b => StoredOnce sender q E a → StoredOnce sender q E b) (fun _ => id)
    (fun hab hbc ha => hbc (hab ha)) (fun _ _ _ _ _ hc ha => ha.commit hc) (fun a b hd ha => ?_) hx
  have hsame : b.envelopesFor sender q.recipientDeviceId q.messageId =
      a.envelopesFor sender q.recipientDeviceId q.messageId :=
    congrArg (List.filter _) (drift_envelopes hd)
  exact ⟨ha.1, ha.2.1, hsame.trans ha.2.2⟩

/-! ### Further requests -/

/-- What the stored row says to a further request: the row's version is what the server got. -/
def compared (sender : Uuid) (q : NewTextMessageRequest) (E : Envelope)
    (q' : NewTextMessageRequest) : NewMessageResult :=
  if cString q.protocolVersion = q'.protocolVersion ∧ q.packet = q'.packet then
    ⟨.duplicateRequest, some (answered sender q' E.envelopeId E.seq)⟩
  else ⟨.conflict, none⟩

theorem compared_of_nulFree {sender : Uuid} {q q' : NewTextMessageRequest} {E : Envelope}
    (h : StoredOnce sender q E db) (hq : SameMessage q q') (hnul : NulFree q.protocolVersion) :
    compared sender q E q' = resubmitted q E q' := by
  rw [compared, resubmitted, cString_eq_self hnul]
  by_cases heq : q' = q
  · subst heq
    rw [if_pos ⟨rfl, rfl⟩, if_pos rfl, ← h.2.1]
  · rw [if_neg heq, if_neg]
    rintro ⟨hversion, hpacket⟩
    obtain ⟨m, r, v, p⟩ := q
    obtain ⟨m', r', v', p'⟩ := q'
    obtain ⟨hr, hm⟩ := hq
    exact heq (by simp_all)

theorem compared_self {sender : Uuid} {q : NewTextMessageRequest} {E : Envelope}
    (hnul : ¬ NulFree q.protocolVersion) : compared sender q E q = ⟨.conflict, none⟩ :=
  if_neg fun h => hnul (cString_eq_self_iff.mp h.1)

/-- **A further request** writes nothing, and is answered by comparing it with the row, or denied. -/
theorem StoredOnce.save {user' sender : Uuid} {q q' : NewTextMessageRequest} {E : Envelope}
    {r : NewMessageResult} {seen : List Db} {ws : List Write} (h : StoredOnce sender q E db)
    (hq : SameMessage q q') (hs : SaveSpec user' sender q' r seen ws db) :
    ws = [] ∧ (r = compared sender q E q' ∨ r = ⟨.permissionDenied, none⟩ ∧
      ∃ v ∈ db :: seen, ¬ v.permits user' sender q'.recipientDeviceId) := by
  obtain ⟨-, -, hrow⟩ := h
  rw [← hq.1, ← hq.2] at hrow
  have hhead : ∀ existing, (db.envelopesFor sender q'.recipientDeviceId q'.messageId).head? =
      some existing → stored sender q E.envelopeId E.seq = existing := by
    intro existing he
    rw [hrow] at he
    exact Option.some.inj he
  cases hs with
  | success id hp hfree =>
    rw [hrow] at hfree
    cases hfree
  | duplicate existing hp he hversion hpacket =>
    obtain rfl := hhead existing he
    exact ⟨rfl, Or.inl (if_pos ⟨hversion, hpacket⟩).symm⟩
  | conflict existing hp he hdiff =>
    obtain rfl := hhead existing he
    refine ⟨rfl, Or.inl (if_neg fun hboth => ?_).symm⟩
    exact hdiff.elim (fun hne => hne hboth.1) fun hne => hne hboth.2
  | permissionDenied hdenied => exact ⟨rfl, Or.inr ⟨rfl, hdenied⟩⟩

/-! ### A request alone -/

/-- Alone, the friendship query finds both directions. -/
theorem solo_selectFriendships {a b : Uuid} {s : Local Db Write Key} {vs : List Uuid}
    (hs : s.writes = []) (hab : db.friendRelation a b) (hba : db.friendRelation b a) :
    ∃ s', (selectFriendships a b).solo (schema P) db s vs = some (.ok (directions a b), s', vs) ∧
      s'.writes = [] := by
  obtain ⟨s₁, hrows, hw₁⟩ : ∃ s', (selectFriendships a b).solo (schema P) db s vs = some (.ok
      (((directions a b).filter fun row => ((schema P).applyAll s.writes db).friendRelation row.1 row.2
        ).filterMap fun row => if ((schema P).applyAll s.writes db).friendRelation row.1 row.2 then
          some row else none), s', vs) ∧ s'.writes = s.writes := solo_selectLocked s _ _ _
  have hall : ∀ row ∈ directions a b, db.friendRelation row.1 row.2 = true := by
    rcases directions_cases a b with hd | hd <;> simp [hd, hab, hba]
  refine ⟨s₁, ?_, hw₁.trans hs⟩
  rw [hrows, hs, Schema.applyAll_nil, List.filter_eq_self.mpr hall]
  have hsome : (directions a b).filterMap
      (fun row => if db.friendRelation row.1 row.2 then some row else none) = directions a b := by
    rw [List.filterMap_congr (g := some) fun row hrow => if_pos (hall row hrow), List.filterMap_some]
  rw [hsome]

/-- Alone, the authorization of a permitted send succeeds. -/
theorem solo_permitted {user sender recipient : Uuid} {s : Local Db Write Key} {vs : List Uuid}
    (hs : s.writes = []) (h : db.permits user sender recipient) :
    ∃ s', (permitted user sender recipient).solo (schema P) db s vs = some (.ok true, s', vs) ∧
      s'.writes = [] := by
  obtain ⟨s₁, hrows, hw₁⟩ : ∃ s', (selectDevices user sender recipient).solo (schema P) db s vs =
      some (.ok ((pairDevices sender recipient).filterMap (confirmed user sender db db)), s', vs) ∧
        s'.writes = [] := by
    obtain ⟨s', hrows, hw⟩ := solo_selectLocked (S := schema P) s (fun row => ownerLocks row.1 row.2)
      (fun db => (pairDevices sender recipient).filterMap (deviceRow user sender db))
      fun db row => (deviceRow user sender db row.1).filter (· = row)
    rw [hs, Schema.applyAll_nil, List.filterMap_filterMap] at hrows
    exact ⟨s', hrows, hw.trans hs⟩
  obtain ⟨hS, hR⟩ := confirmed_of_permits
    (Interference.refl [] db : Interference (schema P) [] db db) h h
  obtain ⟨hne, -, owner, howner, hor⟩ := h
  have hrow : confirmed user sender db db recipient = some (recipient, owner) := by
    have hd : deviceRow user sender db recipient = some (recipient, owner) :=
      deviceRow_eq_some.mpr ⟨rfl, howner, Or.inl hne.symm⟩
    exact confirmed_eq_some.mpr ⟨hd, hd⟩
  have hlast := getLast_devices
    (fun d row hd => (deviceRow_eq_some.mp (confirmed_eq_some.mp hd).1).1) hne hS hrow
  have hlen := length_devices.mpr ⟨hne, hS, hR⟩
  rw [permitted, Prog.solo_bind_of_ok hrows, if_neg (not_not.mpr hlen), hlast]
  change ∃ s', Prog.solo _ db (if owner = user then _ else _) s₁ vs = _ ∧ _
  by_cases hown : owner = user
  · rw [if_pos hown]
    exact ⟨s₁, rfl, hw₁⟩
  · rw [if_neg hown]
    obtain ⟨hab, hba⟩ := hor.resolve_left hown
    obtain ⟨s₂, hfriends, hw₂⟩ := solo_selectFriendships (P := P) hw₁ hab hba
    refine ⟨s₂, ?_, hw₂⟩
    rw [Prog.solo_bind_of_ok hfriends]
    rfl

/-- **Alone, a further request is compared with the stored row.** -/
theorem solo_saveNewMessage {user sender : Uuid} {q q' : NewTextMessageRequest} {E : Envelope}
    (h : StoredOnce sender q E db) (hq : SameMessage q q')
    (hp : db.permits user sender q'.recipientDeviceId) :
    ∃ s, (saveNewMessage P user sender q').solo (schema P) db {} [] =
      some (.ok (compared sender q E q'), s, []) ∧ s.writes = [] := by
  obtain ⟨s₁, hpermitted, hw₁⟩ : ∃ s', (permitted user sender q'.recipientDeviceId).solo (schema P) db
      (({} : Local Db Write Key).hold (pairKey P sender q'.recipientDeviceId) .exclusive) [] =
        some (.ok true, s', []) ∧ s'.writes = [] := solo_permitted rfl hp
  obtain ⟨hpos, -, hrow⟩ := h
  rw [← hq.1, ← hq.2] at hrow
  refine ⟨s₁.see db, ?_, hw₁⟩
  change Prog.solo _ db ((permitted user sender q'.recipientDeviceId).bind _) _ _ = _
  rw [Prog.solo_bind_of_ok hpermitted, if_neg (by decide), Prog.solo, Schema.view, hw₁,
    Schema.applyAll_nil, hrow, compared]
  change Prog.solo _ db (if cString q.protocolVersion ≠ q'.protocolVersion ∨
    encodeHex q.packet ≠ encodeHex q'.packet then _ else _) _ _ = _
  by_cases hsame : cString q.protocolVersion = q'.protocolVersion ∧ q.packet = q'.packet
  · have hsame' : ¬ (cString q.protocolVersion ≠ q'.protocolVersion ∨
        encodeHex q.packet ≠ encodeHex q'.packet) := by simp [hsame]
    rw [if_pos hsame, if_neg hsame', stored, parseSeq_of_pos hpos]
    rfl
  · have hdiff : cString q.protocolVersion ≠ q'.protocolVersion ∨
        encodeHex q.packet ≠ encodeHex q'.packet := by
      by_contra hno
      push Not at hno
      exact hsame ⟨hno.1, encodeHex_injective hno.2⟩
    rw [if_neg hsame, if_pos hdiff]
    rfl

/-! ### The contract -/

/-- What is to hold of the rest `later` of a run, and of the configuration `c` at its end, once `q`
has been stored as `E`. -/
structure RetryContract (S : System Db Write Key Uuid Error Call Reply) (c : StoreConfig)
    (later : List StoreEvent) (sender : Uuid) (q : NewTextMessageRequest) (E : Envelope) : Prop where
  /-- A further request changes nothing. -/
  readOnly : ∀ f ∈ later, ∀ user' q', SameMessage q q' →
    f.call = .saveNewMessage user' sender q' → f.writes = []
  /-- It is answered as a duplicate or as a conflict, unless the send was not permitted in a state
  that its last attempt saw, or that attempt failed. -/
  answers : ∀ user' q' result, SameMessage q q' → ChatService.validRequest user' sender q' →
    Called later user' sender q' result →
      result = ChatService.ofResult (resubmitted q E q') ∨
      ∃ f ∈ later, f.call = .saveNewMessage user' sender q' ∧
        (result = ⟨.permissionDenied, none⟩ ∧
          (∃ v ∈ f.before :: f.seen, ¬ v.permits user' sender q'.recipientDeviceId) ∨
        result.status.isFailure ∧ ∀ reply, f.outcome ≠ .returned reply)
  /-- With nothing else going on, and the send permitted, it has that answer and leaves the store as
  it is. -/
  alone : c.Quiet → ∀ user' q', SameMessage q q' → ChatService.validRequest user' sender q' →
    S.allows c.log (.saveNewMessage user' sender q') →
    c.db.permits user' sender q'.recipientDeviceId →
      ∃ f c', Steps S c c' ∧ c'.db = c.db ∧ c'.log = c.log ++ [f] ∧
        Called [f] user' sender q' (ChatService.ofResult (resubmitted q E q'))

/-- After a success, its row is there and stays. -/
theorem storedOnce_of_called {c : StoreConfig} {earlier later : List StoreEvent} {user sender : Uuid}
    {q : NewTextMessageRequest} {E : Envelope} (h : Reachable (store P allows) db₀ c)
    (hlog : c.log = earlier ++ later) (hsuccess : Called earlier user sender q ⟨.success, some E⟩) :
    StoredOnce sender q E c.db ∧ ∀ f ∈ later, ∃ v : StoreState,
      Serial.Ends (store P allows) (Committed P) v f ∧ StoredOnce sender q E v.db := by
  obtain ⟨e, he, hcall, ⟨r, hreturned, hr⟩ | ⟨-, hfailure⟩⟩ :=
    hsuccess.last (hsuccess.valid (by simp))
  · obtain rfl := ChatService.ofResult_eq_success hr.symm
    obtain ⟨l₁, l₂, rfl⟩ := List.append_of_mem he
    have hlog' : c.serial.log = l₁ ++ e :: (l₂ ++ later) := hlog.trans (by simp)
    have stores : ∀ u : StoreState, Serial.Ends (store P allows) (Committed P) u e →
        StoredOnce sender q E (u.after (store P allows) e).db := by
      intro u hu
      obtain ⟨result, hresult, hspec⟩ := (hcall ▸ hu.returned hreturned).save
      obtain rfl := Reply.message.inj hresult
      exact .of_success hspec
    obtain ⟨u, -, -, hue, hux⟩ := (serial h).split hlog'
    refine ⟨storedOnce_of_steps hux (stores u hue), fun f hf => ?_⟩
    obtain ⟨u, v, -, -, hue, huv, hvf, -⟩ := (serial h).split_two hlog' (List.mem_append_right _ hf)
    exact ⟨v, hvf, storedOnce_of_steps huv (stores u hue)⟩
  · cases hfailure

/-- The answer to a further request, whatever the first one was. -/
theorem answered_of_called {c : StoreConfig} {earlier later : List StoreEvent}
    {user user' sender : Uuid} {q q' : NewTextMessageRequest} {E : Envelope}
    {result : NewTextMessageResult} (h : Reachable (store P allows) db₀ c)
    (hlog : c.log = earlier ++ later) (hsuccess : Called earlier user sender q ⟨.success, some E⟩)
    (hq : SameMessage q q') (hvalid : ChatService.validRequest user' sender q')
    (hcalled : Called later user' sender q' result) :
    result = ChatService.ofResult (compared sender q E q') ∨
      ∃ f ∈ later, f.call = .saveNewMessage user' sender q' ∧
        (result = ⟨.permissionDenied, none⟩ ∧
          (∃ v ∈ f.before :: f.seen, ¬ v.permits user' sender q'.recipientDeviceId) ∨
        result.status.isFailure ∧ ∀ reply, f.outcome ≠ .returned reply) := by
  obtain ⟨f, hf, hcall, ⟨r, hreturned, rfl⟩ | ⟨hlost, hfailure⟩⟩ := hcalled.last hvalid
  · obtain ⟨v, hvf, hv⟩ := (storedOnce_of_called h hlog hsuccess).2 f hf
    obtain ⟨result, hresult, hspec⟩ := (hcall ▸ hvf.returned hreturned).save
    obtain rfl := Reply.message.inj hresult
    obtain ⟨-, rfl | ⟨rfl, hdenied⟩⟩ := hv.save hq hspec
    · exact Or.inl rfl
    · exact Or.inr ⟨f, hf, hcall, Or.inl ⟨rfl, hvf.before ▸ hdenied⟩⟩
  · exact Or.inr ⟨f, hf, hcall, Or.inr ⟨hfailure, hlost⟩⟩

/-- **Idempotent retry.** In every run, a message whose `protocol_version` has no NUL character and
that has once been stored is answered as a duplicate from then on, and any other content under its
identifier as a conflict. With a NUL character, it is never answered as a duplicate. -/
theorem idempotent_retry {c : StoreConfig} {earlier later : List StoreEvent} {user sender : Uuid}
    {q : NewTextMessageRequest} {E : Envelope} (h : Reachable (store P allows) db₀ c)
    (hlog : c.log = earlier ++ later) (hsuccess : Called earlier user sender q ⟨.success, some E⟩) :
    (NulFree q.protocolVersion → RetryContract (store P allows) c later sender q E) ∧
      (¬ NulFree q.protocolVersion → ∀ user' result, Called later user' sender q result →
        result.status ≠ .duplicateRequest) := by
  obtain ⟨hnow, hlater⟩ := storedOnce_of_called h hlog hsuccess
  refine ⟨fun hnul => ⟨fun f hf user' q' hq hcall => ?_, fun user' q' result hq hvalid hcalled => ?_,
    fun hquiet user' q' hq hvalid hallowed hp => ?_⟩, fun hnul user' result hcalled hduplicate => ?_⟩
  · obtain ⟨v, hvf, hv⟩ := hlater f hf
    rcases hvf.writes with hnone | ⟨reply, hspec⟩
    · exact hnone
    · obtain ⟨result, -, hspec⟩ := (hcall ▸ hspec).save
      exact (hv.save hq hspec).1
  · rw [← compared_of_nulFree hnow hq hnul]
    exact answered_of_called h hlog hsuccess hq hvalid hcalled
  · obtain ⟨s, hsolo, hw⟩ := solo_saveNewMessage (P := P) hnow hq hp
    rw [compared_of_nulFree hnow hq hnul] at hsolo
    have hbody : ((store P allows).body (.saveNewMessage user' sender q')).solo (schema P) c.db {} [] =
        some (.ok (.message (resubmitted q E q')), s, []) := by
      change Prog.solo _ _ (Prog.bind _ _) _ _ = _
      rw [Prog.solo_bind_of_ok hsolo]
      rfl
    have hdb : (schema P).view s c.db = c.db := by rw [Schema.view, hw, Schema.applyAll_nil]
    exact ⟨_, _, Steps.returned hquiet hallowed hbody, hdb, rfl, Called.single rfl hvalid⟩
  · have hvalid := hcalled.valid (by rw [hduplicate]; decide)
    rcases answered_of_called h hlog hsuccess ⟨rfl, rfl⟩ hvalid hcalled with rfl | ⟨f, -, -, hor⟩
    · rw [compared_self hnul] at hduplicate
      cases hduplicate
    · rcases hor with ⟨rfl, -⟩ | ⟨hfailure, -⟩
      · cases hduplicate
      · rw [hduplicate] at hfailure
        cases hfailure

namespace Sample

/-- libsodium, on the packets of the messages below. -/
def sodium : Sodium where
  base642bin _ b64 := if b64 = "AQ==" then some [1] else none

/-- Bob's phone writes to Alice's; the version is followed by a NUL character and more text. -/
def nulMessage : NewTextMessageRequest := ⟨21, laptop, "v1\x00x", [1]⟩

/-- The payload that asks for it. -/
def nulPayload : Json :=
  .object [("type", .string "chat.newTextMessage"),
    ("sender_device_id", .string "00000000-0000-0000-0000-00000000000b"),
    ("message_id", .string "00000000-0000-0000-0000-000000000015"),
    ("recipient_device_id", .string "00000000-0000-0000-0000-00000000000c"),
    ("protocol_version", .string "v1\x00x"), ("packet_base64", .string "AQ==")]

end Sample

/-- A message without NUL character, sent twice. -/
theorem idempotent_retry_twice : ∃ (c : StoreConfig) (e f : StoreEvent) (E : Envelope),
    Reachable (store Sample.platform Sample.anyone) Sample.start c ∧ c.log = [e, f] ∧
      RetryContract (store Sample.platform Sample.anyone) c [f] Sample.phone
        ⟨21, Sample.laptop, "v1", [1]⟩ E := by
  let q : NewTextMessageRequest := ⟨21, Sample.laptop, "v1", [1]⟩
  let E : Envelope := answered Sample.phone q 31 1
  obtain ⟨c, hc, -, ht⟩ := Reachable.of_runCalls (store Sample.platform Sample.anyone) Sample.start
    [(.saveNewMessage Sample.alice Sample.phone q, [31]),
      (.saveNewMessage Sample.alice Sample.phone q, [])]
    (fun c : StoreConfig => c.log.map savedMessage =
      [some (⟨Sample.alice, Sample.phone, q⟩, ⟨.success, some E⟩),
        some (⟨Sample.alice, Sample.phone, q⟩, ⟨.duplicateRequest, some E⟩)])
    (fun _ _ _ => trivial) (by decide +kernel)
  obtain ⟨e, l, hlog, he, hl⟩ := List.map_eq_cons_iff.mp (of_decide_eq_true ht)
  obtain ⟨f, l', rfl, hf, hl'⟩ := List.map_eq_cons_iff.mp hl
  obtain rfl := List.map_eq_nil_iff.mp hl'
  have hvalid : ChatService.validRequest Sample.alice Sample.phone q := by decide +kernel
  have hsplit : c.log = [e] ++ [f] := hlog
  exact ⟨c, e, f, E, hc, hlog, (idempotent_retry hc hsplit (Called.single he hvalid)).1 (by decide)⟩

/-- **A message that is refused as its own conflict.** The request is accepted by the parser and
stored; the same request is then answered as a conflict. -/
theorem idempotent_retry_nul :
    WebSocketDispatcher.parseNewMessage Sample.sodium Sample.nulPayload =
      .ok ⟨Sample.phone, Sample.nulMessage⟩ ∧
    ∃ (c : StoreConfig) (e f : StoreEvent) (E : Envelope),
      Reachable (store Sample.platform Sample.anyone) Sample.start c ∧ c.log = [e, f] ∧
        Called [e] Sample.alice Sample.phone Sample.nulMessage ⟨.success, some E⟩ ∧
        Called [f] Sample.alice Sample.phone Sample.nulMessage ⟨.conflict, none⟩ ∧
        ¬ RetryContract (store Sample.platform Sample.anyone) c [f] Sample.phone Sample.nulMessage E := by
  refine ⟨by decide +kernel, ?_⟩
  let E : Envelope := answered Sample.phone Sample.nulMessage 31 1
  obtain ⟨c, hc, -, ht⟩ := Reachable.of_runCalls (store Sample.platform Sample.anyone) Sample.start
    [(.saveNewMessage Sample.alice Sample.phone Sample.nulMessage, [31]),
      (.saveNewMessage Sample.alice Sample.phone Sample.nulMessage, [])]
    (fun c : StoreConfig => c.log.map savedMessage =
      [some (⟨Sample.alice, Sample.phone, Sample.nulMessage⟩, ⟨.success, some E⟩),
        some (⟨Sample.alice, Sample.phone, Sample.nulMessage⟩, ⟨.conflict, none⟩)])
    (fun _ _ _ => trivial) (by decide +kernel)
  obtain ⟨e, l, hlog, he, hl⟩ := List.map_eq_cons_iff.mp (of_decide_eq_true ht)
  obtain ⟨f, l', rfl, hf, hl'⟩ := List.map_eq_cons_iff.mp hl
  obtain rfl := List.map_eq_nil_iff.mp hl'
  have hvalid : ChatService.validRequest Sample.alice Sample.phone Sample.nulMessage := by
    decide +kernel
  have hconflict : Called [f] Sample.alice Sample.phone Sample.nulMessage ⟨.conflict, none⟩ :=
    Called.single hf hvalid
  refine ⟨c, e, f, E, hc, hlog, Called.single he hvalid, hconflict, fun hcontract => ?_⟩
  rcases hcontract.answers _ _ _ ⟨rfl, rfl⟩ hvalid hconflict with h | ⟨-, -, -, ⟨h, -⟩ | ⟨h, -⟩⟩
  · rw [resubmitted, if_pos rfl] at h
    cases h
  · cases h
  · cases h

end ChatBackend
