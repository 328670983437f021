import ChatBackend.Service.Packets
import ChatBackend.Store.Acknowledging

/-!
# Acknowledgments

`ackEnvelopes` marks the envelopes of its own device as received, and nothing else, however the
calls interleave: who is refused, what is returned, what becomes of `received_at` over a history,
and what a repetition of the request does.

What is returned are the requested identifiers that name envelopes of the device in the snapshot of
the update. So a repetition returns the same ones, unless an envelope has been stored since under an
identifier that the client had asked for before there was one.

## Main definitions

* `lockState` — the state that decides on the device
* `AckOutcome`, `ReceivedOnce`, `Repeats`

## Main results

* `acknowledgment_exact`, `acknowledgment_again_finds_more`
-/

namespace ChatBackend

open ReadCommitted EnvelopeRepository

variable {P : Platform} {allows : List StoreEvent → Call → Prop} {db db' db₀ : Db}
  {user : Uuid} {request : AckEnvelopeRequest}

/-! ### What a call leaves behind -/

/-- A row later on: the envelope is the same, and `received_at` is if it was set. -/
def RowLater (row row' : EnvelopeRow) : Prop :=
  row'.toEnvelope = row.toEnvelope ∧ (row.receivedAt ≠ none → row'.receivedAt = row.receivedAt)

/-- Every row of `a` is in `b`, or a later version of it. -/
def RowsKept (a b : Db) : Prop :=
  ∀ row ∈ a.messageEnvelopes, ∃ row' ∈ b.messageEnvelopes, RowLater row row'

theorem RowsKept.refl (db : Db) : RowsKept db db :=
  fun row hrow => ⟨row, hrow, rfl, fun _ => rfl⟩

theorem RowsKept.trans {a b c : Db} (h : RowsKept a b) (h' : RowsKept b c) : RowsKept a c := by
  intro row hrow
  obtain ⟨row', hrow', hsame, hset⟩ := h row hrow
  obtain ⟨row'', hrow'', hsame', hset'⟩ := h' row' hrow'
  refine ⟨row'', hrow'', hsame'.trans hsame, fun hne => ?_⟩
  rw [hset' (hset hne ▸ hne), hset hne]

/-- The row as the call leaves it: unchanged, or marked by the device it is addressed to. -/
def MarkedBy (call : Call) (before : Db) (row row' : EnvelopeRow) : Prop :=
  row' = row ∨ row.receivedAt = none ∧ (∃ now, row' = { row with receivedAt := some now }) ∧
    ∃ user request, call = .ackEnvelopes user request ∧
      request.deviceId = row.recipientDeviceId ∧ row.envelopeId ∈ request.envelopeIds ∧
      before.activeOwner row.recipientDeviceId = some user

theorem MarkedBy.later {call : Call} {row row' : EnvelopeRow} (h : MarkedBy call db row row') :
    RowLater row row' := by
  rcases h with rfl | ⟨hnone, ⟨now, rfl⟩, -⟩
  · exact ⟨rfl, fun _ => rfl⟩
  · exact ⟨rfl, fun hne => absurd hnone hne⟩

/-- The write changes a `received_at`. -/
def Write.isMark : Write → Bool
  | .setReceivedAt _ _ => true
  | _ => false

/-- Writes of other kinds only add rows. -/
theorem messageEnvelopes_applyAll {ws : List Write} (h : ∀ w ∈ ws, w.isMark = false) (db : Db) :
    db.messageEnvelopes <+: ((schema P).applyAll ws db).messageEnvelopes := by
  refine Schema.applyAll_induct (schema P)
    (P := fun x => db.messageEnvelopes <+: x.messageEnvelopes) (fun w hw x hx => hx.trans ?_)
    List.prefix_rfl
  rw [schema_apply]
  cases w with
  | insertEnvelope row => exact List.prefix_append _ _
  | setReceivedAt id at' => exact Bool.noConfusion (h _ hw)
  | _ => exact List.prefix_rfl

/-- Only acknowledgments mark. -/
theorem Committed.isMark {call : Call} {r : Reply} {seen : List Db} {ws : List Write}
    (h : Committed P call r seen ws db) (hcall : ∀ user request, call ≠ .ackEnvelopes user request) :
    ∀ w ∈ ws, w.isMark = false := by
  intro w hw
  have htable := h.tables w hw
  cases hmark : w.isMark with
  | false => rfl
  | true =>
    cases w <;> cases hmark
    cases h with
    | ackEnvelopes => exact absurd rfl (hcall _ _)
    | saveNewMessage hs => cases hs <;> simp at hw
    | _ => simp [Write.table, Call.tables] at htable

/-- **The effect of an acknowledgment.** -/
theorem AckRun.effect {result : Option (List Uuid)} {seen : List Db} {ws : List Write}
    (h : AckRun user request result seen ws db) (hunique : UniqueIds db) :
    result = none ∧ (schema P).applyAll ws db = db ∨ ∃ ids now, result = some ids ∧
      (schema P).applyAll ws db = db.markReceived ids now ∧
      db.activeOwner request.deviceId = some user ∧ ids ⊆ request.envelopeIds ∧
      ∀ id ∈ ids, ∃ row ∈ db.messageEnvelopes, row.envelopeId = id ∧
        row.recipientDeviceId = request.deviceId := by
  cases h with
  | notFound => exact Or.inl ⟨rfl, rfl⟩
  | notGranted => exact Or.inl ⟨rfl, rfl⟩
  | acknowledged now rows hfound hgranted hactive hids hrows =>
    refine Or.inr ⟨_, now, rfl, ?_, hactive, fun id hid => (Db.mem_namedBy.mp hid).1, fun id hid => ?_⟩
    · rw [applyAll_ackRun hunique hrows, hids]
    · obtain ⟨row, hrow, rfl⟩ := List.mem_map.mp (hids ▸ hid)
      obtain ⟨e, he, heid, hdevice, -⟩ := hrows row hrow
      exact ⟨e, he, heid, hdevice⟩

/-- **The step.** Every call leaves every row as it was, or marks it for its device. -/
theorem Acks.marked {call : Call} {r : Reply} {seen : List Db} {ws : List Write}
    (h : Acks P call r seen ws db) (hunique : UniqueIds db) : ∀ row ∈ db.messageEnvelopes,
      ∃ row' ∈ ((schema P).applyAll ws db).messageEnvelopes, MarkedBy call db row row' := by
  intro row hrow
  by_cases hcall : ∃ user request, call = .ackEnvelopes user request
  · obtain ⟨user, request, rfl⟩ := hcall
    obtain ⟨result, -, hrun⟩ := h.2 user request rfl
    rcases hrun.effect (P := P) hunique with ⟨-, hsame⟩ | ⟨ids, now, -, hmark, hactive, hsub, hids⟩
    · refine ⟨row, ?_, Or.inl rfl⟩
      rw [hsame]
      exact hrow
    · refine ⟨row.markReceived ids now, ?_, ?_⟩
      · rw [hmark]
        exact List.mem_map_of_mem hrow
      · rw [EnvelopeRow.markReceived]
        split_ifs with hid
        · cases hreceived : row.receivedAt with
          | some at' =>
            refine Or.inl ?_
            rw [Option.getD_some, ← hreceived]
          | none =>
            obtain ⟨e, he, heid, hdevice⟩ := hids _ hid
            have hown : e.toEnvelope = row.toEnvelope :=
              hunique.eq (List.mem_map_of_mem he) (List.mem_map_of_mem hrow) heid
            rw [hown] at hdevice
            exact Or.inr ⟨hreceived, ⟨now, rfl⟩, user, request, rfl, hdevice.symm, hsub hid,
              hdevice ▸ hactive⟩
        · exact Or.inl rfl
  · have hmarks := h.1.isMark fun user request heq => hcall ⟨user, request, heq⟩
    exact ⟨row, (messageEnvelopes_applyAll hmarks db).subset hrow, Or.inl rfl⟩

/-! ### Runs -/

/-- The serial run behind a run of the store, with its acknowledgments. -/
theorem serial_acks {c : StoreConfig} (h : Reachable (store P allows) db₀ c) :
    Serial.Reachable (store P allows) (Acks P) db₀ c.serial :=
  Reachable.serial (meets_acks P allows) h

theorem uniqueIds_of_acks {x : StoreState}
    (h : Serial.Reachable (store P allows) (Acks P) db₀ x) (h₀ : UniqueIds db₀) : UniqueIds x.db :=
  uniqueIds_of_reachable (Serial.Steps.mono (fun _ _ _ _ _ hc => hc.1) h) h₀

/-- What an event leaves of the rows. -/
theorem marked_of_ends {u : StoreState} {e : StoreEvent}
    (he : Serial.Ends (store P allows) (Acks P) u e) (hunique : UniqueIds u.db) :
    ∀ row ∈ u.db.messageEnvelopes, ∃ row' ∈ ((schema P).applyAll e.writes u.db).messageEnvelopes,
      MarkedBy e.call u.db row row' := by
  rcases he.writes with hw | ⟨r, hr⟩
  · rw [hw, Schema.applyAll_nil]
    exact fun row hrow => ⟨row, hrow, Or.inl rfl⟩
  · exact hr.marked hunique

/-- **Rows are kept**, from any state of a run to any later one. -/
theorem rowsKept_of_steps {x y : StoreState} (h : Serial.Steps (store P allows) (Acks P) x y)
    (hunique : UniqueIds x.db) : RowsKept x.db y.db ∧ UniqueIds y.db := by
  refine Serial.induction (P := fun y => RowsKept x.db y.db ∧ UniqueIds y.db)
    (fun y e he hy => ?_) (fun y db hd hy => ?_) h ⟨.refl _, hunique⟩
  · refine ⟨hy.1.trans fun row hrow => ?_, ?_⟩
    · obtain ⟨row', hrow', hmarked⟩ := marked_of_ends he hy.2 row hrow
      exact ⟨row', hrow', hmarked.later⟩
    · rcases he.writes with hw | ⟨r, hr⟩
      · rw [Serial.State.db_after, hw]
        exact hy.2
      · exact hy.2.commit hr.1
  · obtain ⟨now, -, rfl⟩ := hd
    exact hy

theorem rowsKept_of_mem_past {x : StoreState}
    (h : Serial.Reachable (store P allows) (Acks P) db₀ x) (h₀ : UniqueIds db₀) :
    ∀ past ∈ x.past, RowsKept past x.db := by
  suffices hboth : (∀ past ∈ x.past, RowsKept past x.db) ∧ UniqueIds x.db from hboth.1
  have extend : ∀ {past : List Db} {a b : Db}, RowsKept a b → (∀ v ∈ past, RowsKept v a) →
      ∀ v ∈ b :: past, RowsKept v b := by
    intro past a b hab hpast v hv
    rcases List.mem_cons.mp hv with rfl | hv
    · exact .refl _
    · exact (hpast v hv).trans hab
  refine Serial.induction (P := fun x => (∀ past ∈ x.past, RowsKept past x.db) ∧ UniqueIds x.db)
    (fun x e he hx => ?_) (fun x db hd hx => ?_) h ⟨?_, h₀⟩
  · have hstep := rowsKept_of_steps (Relation.ReflTransGen.single (.ends he)) hx.2
    exact ⟨extend hstep.1 hx.1, hstep.2⟩
  · have hstep := rowsKept_of_steps (Relation.ReflTransGen.single (.drift hd)) hx.2
    exact ⟨extend hstep.1 hx.1, hstep.2⟩
  · intro past hpast
    rw [List.mem_singleton.mp hpast]
    exact .refl _

/-! ### One acknowledgment -/

/-- The state that decides on a device, of the states a call has read, oldest first: after the clock,
the query's snapshot, which looks for the row; if it is there, the re-check once its lock has been
granted. -/
def lockState (user device : Uuid) : List Db → Option Db
  | _ :: found :: rest =>
    if found.activeOwner device = some user then rest.head? else some found
  | _ => none

/-- The snapshot of the update, of the states a call has read, oldest first. -/
def updateState (reads : List Db) : Option Db := reads[3]?

/-- **What becomes of an acknowledgment.** -/
structure AckOutcome (P : Platform) (user : Uuid) (request : AckEnvelopeRequest) (e : StoreEvent) :
    Prop where
  /-- A call that throws changes nothing, unless the answer to its `COMMIT` was lost. -/
  thrown : ∀ error, e.outcome = .threw error → stateAfter P e = e.before
  /-- A call that returns refuses exactly if the device is not active when its lock is granted. -/
  decided : ∀ r, e.outcome = .returned r → ∃ result v, r = .acknowledged result ∧
    lockState user request.deviceId e.seen.reverse = some v ∧
    (result = none ↔ v.activeOwner request.deviceId ≠ some user)
  refused : e.outcome = .returned (.acknowledged none) → stateAfter P e = e.before
  /-- Otherwise it returns the requested identifiers that name envelopes of the device, each of them
  once, and sets `received_at` in their rows where it is null. -/
  acknowledged : ∀ ids, e.outcome = .returned (.acknowledged (some ids)) →
    e.before.activeOwner request.deviceId = some user ∧ ids.Nodup ∧
    (∃ v, updateState e.seen.reverse = some v ∧ ∀ id, id ∈ ids ↔ id ∈ request.envelopeIds ∧
      ∃ row ∈ v.messageEnvelopes, row.envelopeId = id ∧
        row.recipientDeviceId = request.deviceId) ∧
    ∃ now, stateAfter P e = e.before.markReceived ids now
  /-- However the call ends, the envelopes are as before, and so is what is synchronized. -/
  unaltered : (stateAfter P e).envelopes = e.before.envelopes ∧
    (∀ q, pageOf (stateAfter P e) q = pageOf e.before q) ∧
    ∀ device, (stateAfter P e).activeOwner device = e.before.activeOwner device

/-- Pages depend on the envelopes only. -/
theorem pageOf_congr {q : SyncEnvelopeRequest} (h : db'.envelopes = db.envelopes) :
    pageOf db' q = pageOf db q := by
  have hsame : db'.messageEnvelopes.map EnvelopeRow.toEnvelope =
      db.messageEnvelopes.map EnvelopeRow.toEnvelope := h
  rw [pageOf, pageOf, pending, pending, hsame]

theorem ackOutcome_of_ends {u : StoreState} {e : StoreEvent}
    (he : Serial.Ends (store P allows) (Acks P) u e) (hunique : UniqueIds u.db)
    (hpast : ∀ v ∈ u.past, UniqueIds v) (hcall : e.call = .ackEnvelopes user request) :
    AckOutcome P user request e := by
  have hbefore : e.before = u.db := he.before
  have hrun : ∀ r, e.outcome = .returned r → ∃ result, r = .acknowledged result ∧
      AckRun user request result e.seen e.writes u.db := by
    intro r hr
    exact (he.returned hr).2 user request hcall
  -- what is committed is the effect of some run, or nothing
  have heffect : stateAfter P e = e.before ∨ ∃ ids now, stateAfter P e = e.before.markReceived ids now := by
    rw [stateAfter, hbefore]
    rcases he.writes with hw | ⟨r, hr⟩
    · exact Or.inl (by rw [hw, Schema.applyAll_nil])
    · obtain ⟨result, -, hack⟩ := hr.2 user request hcall
      rcases hack.effect (P := P) hunique with ⟨-, hsame⟩ | ⟨ids, now, -, hmark, -⟩
      · exact Or.inl hsame
      · exact Or.inr ⟨ids, now, hmark⟩
  refine ⟨fun error herror => ?_, fun r hr => ?_, fun hout => ?_, fun ids hout => ?_, ?_⟩
  · have hc := he.commits
    rw [Serial.Commits, herror] at hc
    rw [stateAfter, hc, Schema.applyAll_nil]
  · obtain ⟨result, rfl, hack⟩ := hrun r hr
    generalize e.seen = seen, e.writes = ws at hack
    cases hack with
    | @notFound found clock _ hfound => exact ⟨none, found, rfl, if_neg hfound, by simp [hfound]⟩
    | @notGranted granted found clock _ hfound hgranted =>
      exact ⟨none, granted, rfl, if_pos hfound, by simp [hgranted]⟩
    | @acknowledged rechecks snapshot granted found clock _ now rows hfound hgranted =>
      refine ⟨_, granted, rfl, ?_, by simp [hgranted]⟩
      rw [List.reverse_append]
      exact if_pos hfound
  · obtain ⟨result, hresult, hack⟩ := hrun _ hout
    obtain rfl := Reply.acknowledged.inj hresult
    rcases hack.effect (P := P) hunique with ⟨-, hsame⟩ | ⟨ids, now, hids, -⟩
    · rw [stateAfter, hbefore, hsame]
    · cases hids
  · obtain ⟨result, hresult, hack⟩ := hrun _ hout
    obtain rfl := Reply.acknowledged.inj hresult
    have hseen := he.seen
    rcases hack.effect (P := P) hunique with ⟨hnone, -⟩ | ⟨ids', now, hids, hmark, hactive, -⟩
    · cases hnone
    · obtain rfl := Option.some.inj hids
      rw [stateAfter, hbefore]
      refine ⟨hactive, ?_, ?_, now, hmark⟩
      · generalize e.seen = seen, e.writes = ws at hack hseen
        cases hack with
        | @acknowledged rechecks snapshot granted found clock _ now rows hfound hgranted =>
          have hsnapshot := hpast snapshot (hseen (by simp))
          rw [UniqueIds, Db.envelopes, List.map_map] at hsnapshot
          exact (List.filter_sublist.map _).nodup hsnapshot
      · generalize e.seen = seen, e.writes = ws at hack
        cases hack with
        | @acknowledged rechecks snapshot granted found clock _ now rows hfound hgranted =>
          refine ⟨snapshot, ?_, fun id => Db.mem_namedBy⟩
          rw [List.reverse_append]
          rfl
  · rcases heffect with hsame | ⟨ids, now, hmark⟩
    · rw [hsame]
      exact ⟨rfl, fun _ => rfl, fun _ => rfl⟩
    · rw [hmark]
      exact ⟨Db.envelopes_markReceived ids now,
        fun q => pageOf_congr (Db.envelopes_markReceived ids now), fun _ => rfl⟩

/-- Every acknowledgment in a history. -/
theorem ackOutcome_of_mem {x : StoreState} (h : Serial.Reachable (store P allows) (Acks P) db₀ x)
    (h₀ : UniqueIds db₀) {e : StoreEvent} (he : e ∈ x.log) (hcall : e.call = .ackEnvelopes user request) :
    AckOutcome P user request e := by
  obtain ⟨u, hu, hends, -⟩ := h.split_mem he
  have hunique := uniqueIds_of_acks hu h₀
  refine ackOutcome_of_ends hends hunique (fun v hv => ?_) hcall
  have hpre := envelopes_prefix_of_mem_past (Serial.Steps.mono (fun _ _ _ _ _ hc => hc.1) hu) v hv
  exact (hpre.sublist.map _).nodup hunique

/-! ### `received_at` over a history -/

/-- The call sets the `received_at` of an envelope. -/
def SetsReceivedAt (P : Platform) (id : Uuid) (e : StoreEvent) : Prop :=
  ∃ row ∈ e.before.messageEnvelopes, ∃ row' ∈ (stateAfter P e).messageEnvelopes,
    row.envelopeId = id ∧ row'.envelopeId = id ∧ row.receivedAt ≠ row'.receivedAt

/-- **`received_at` is set at most once**, by the device that the envelope is addressed to, and
nothing else of an envelope ever changes. -/
structure ReceivedOnce (P : Platform) (c : StoreConfig) : Prop where
  /-- A call leaves a row as it is, or it is the recipient's acknowledgment and the row had none. -/
  marked : ∀ e ∈ c.log, ∀ row ∈ e.before.messageEnvelopes,
    ∃ row' ∈ (stateAfter P e).messageEnvelopes, MarkedBy e.call e.before row row'
  /-- After a call that has set it, no other call does. -/
  once : ∀ l₁ e l₂, c.log = l₁ ++ e :: l₂ → ∀ id, SetsReceivedAt P id e →
    ∀ f ∈ l₂, ¬ SetsReceivedAt P id f
  /-- What was ever committed is still there: the envelopes in order, and each `received_at`. -/
  kept : ∀ past ∈ c.past, past.envelopes <+: c.db.envelopes ∧ RowsKept past c.db

/-- With unique identifiers, a row is known by its identifier. -/
theorem UniqueIds.row (h : UniqueIds db) {row row' : EnvelopeRow} (hrow : row ∈ db.messageEnvelopes)
    (hrow' : row' ∈ db.messageEnvelopes) (hid : row.envelopeId = row'.envelopeId) : row = row' := by
  rw [UniqueIds, Db.envelopes, List.map_map] at h
  exact List.inj_on_of_nodup_map h hrow hrow' hid

/-- A call that changes a `received_at` finds it null and leaves it set. -/
theorem sets_of_ends {u : StoreState} {e : StoreEvent} {id : Uuid}
    (he : Serial.Ends (store P allows) (Acks P) u e) (hunique : UniqueIds u.db)
    (hsets : SetsReceivedAt P id e) :
    (∃ row ∈ u.db.messageEnvelopes, row.envelopeId = id ∧ row.receivedAt = none) ∧
      ∃ row ∈ (u.after (store P allows) e).db.messageEnvelopes, row.envelopeId = id ∧
        row.receivedAt ≠ none := by
  obtain ⟨row, hrow, row', hrow', hid, hid', hne⟩ := hsets
  rw [he.before] at hrow
  rw [stateAfter, he.before] at hrow'
  have hafter := (rowsKept_of_steps (Relation.ReflTransGen.single (.ends he)) hunique).2
  obtain ⟨row'', hrow'', hmarked⟩ := marked_of_ends he hunique row hrow
  have hsame : row''.toEnvelope = row.toEnvelope := hmarked.later.1
  -- the row that the call left is the one it changed
  have hrows : row'' = row' := by
    refine hafter.row hrow'' hrow' ?_
    rw [hsame, hid, hid']
  subst hrows
  rcases hmarked with heq | ⟨hnone, ⟨now, hset⟩, -⟩
  · exact absurd (congrArg EnvelopeRow.receivedAt heq).symm hne
  · refine ⟨⟨row, hrow, hid, hnone⟩, row'', hrow'', hid', ?_⟩
    rw [hset]
    exact Option.some_ne_none _

theorem receivedOnce_of_reachable {c : StoreConfig} (h : Reachable (store P allows) db₀ c)
    (h₀ : UniqueIds db₀) : ReceivedOnce P c := by
  have hs := serial_acks h
  refine ⟨fun e he row hrow => ?_, fun l₁ e l₂ hlog id hsets f hf hsets' => ?_,
    fun past hpast => ⟨envelopes_prefix_of_mem_past (serial h) past hpast,
      rowsKept_of_mem_past hs h₀ past hpast⟩⟩
  · obtain ⟨u, hu, hends, -⟩ := hs.split_mem he
    rw [hends.before] at hrow ⊢
    rw [stateAfter, hends.before]
    exact marked_of_ends hends (uniqueIds_of_acks hu h₀) row hrow
  · obtain ⟨u, v, hu, -, hue, huv, hvf, -⟩ := hs.split_two hlog hf
    have hunique := uniqueIds_of_acks hu h₀
    have hafter := rowsKept_of_steps (Relation.ReflTransGen.single (.ends hue)) hunique
    have hlater := rowsKept_of_steps huv hafter.2
    obtain ⟨-, row, hrow, hid, hset⟩ := sets_of_ends hue hunique hsets
    obtain ⟨⟨row', hrow', hid', hnone⟩, -⟩ := sets_of_ends hvf hlater.2 hsets'
    obtain ⟨row'', hrow'', hsame, hkept⟩ := hlater.1 row hrow
    have hrows : row'' = row' := by
      refine hlater.2.row hrow'' hrow' ?_
      rw [hsame, hid, hid']
    exact hset ((hkept hset).symm.trans (hrows ▸ hnone))

/-! ### Repetitions -/

/-- **Repeating an acknowledgment**: the second call returns the same identifiers, and changes no
row of theirs. The only others it can return name envelopes stored since the first one's snapshot; if
there are none, it changes nothing. -/
structure Repeats (P : Platform) (first second : StoreEvent) (ids ids' : List Uuid) : Prop where
  same : ∃ v, updateState first.seen.reverse = some v ∧ (∀ id, id ∈ ids ↔ id ∈ ids' ∧
    ∃ e ∈ v.envelopes, e.envelopeId = id)
  unchanged : ∀ row ∈ second.before.messageEnvelopes, row.envelopeId ∈ ids →
    row ∈ (stateAfter P second).messageEnvelopes
  idempotent : ids' ⊆ ids → stateAfter P second = second.before

/-- The identifiers that an acknowledgment returned. -/
def ackedOf (e : StoreEvent) : Option ((Uuid × AckEnvelopeRequest) × List Uuid) :=
  match e.call, e.outcome with
  | .ackEnvelopes user request, .returned (.acknowledged (some ids)) => some ((user, request), ids)
  | _, _ => none

theorem ackedOf_eq_some {e : StoreEvent} {ids : List Uuid}
    (h : ackedOf e = some ((user, request), ids)) :
    e.call = .ackEnvelopes user request ∧ e.outcome = .returned (.acknowledged (some ids)) := by
  unfold ackedOf at h
  split at h
  · next user' request' ids' hcall hout =>
    obtain ⟨hargs, rfl⟩ := Prod.ext_iff.mp (Option.some.inj h)
    obtain ⟨rfl, rfl⟩ := Prod.ext_iff.mp hargs
    exact ⟨hcall, hout⟩
  · cases h

/-- What has been returned is marked. -/
theorem marked_of_acked {c : StoreConfig} (h : Reachable (store P allows) db₀ c) (h₀ : UniqueIds db₀)
    {e : StoreEvent} (he : e ∈ c.log) {ids : List Uuid}
    (hacked : ackedOf e = some ((user, request), ids)) :
    ∃ v, updateState e.seen.reverse = some v ∧ v ∈ c.past ∧ (∀ id, id ∈ ids ↔ id ∈ v.namedBy request) ∧
      ∀ id ∈ ids, ∃ row ∈ c.db.messageEnvelopes, row.envelopeId = id ∧ row.receivedAt ≠ none := by
  obtain ⟨hcall, hout⟩ := ackedOf_eq_some hacked
  have hs := serial_acks h
  obtain ⟨u, hu, hends, hux⟩ := hs.split_mem he
  have hunique := uniqueIds_of_acks hu h₀
  obtain ⟨-, -, ⟨v, hv, hids⟩, now, hmark⟩ := (ackOutcome_of_mem hs h₀ he hcall).acknowledged ids hout
  have hseen : v ∈ u.past := hends.seen (List.mem_reverse.mp (List.mem_of_getElem? hv))
  have hnamed : ∀ id, id ∈ ids ↔ id ∈ v.namedBy request :=
    fun id => (hids id).trans Db.mem_namedBy.symm
  refine ⟨v, hv, hux.past_subset (List.mem_cons_of_mem _ hseen), hnamed, fun id hid => ?_⟩
  obtain ⟨-, row, hrow, rfl, -⟩ := (hids id).mp hid
  -- the row of the snapshot, when the call commits, after it, and now
  obtain ⟨row', hrow', hsame, -⟩ := rowsKept_of_mem_past hu h₀ v hseen row hrow
  have hafter : row'.markReceived ids now ∈ (u.after (store P allows) e).db.messageEnvelopes := by
    rw [stateAfter, hends.before] at hmark
    rw [Serial.State.db_after, store_toSchema, hmark]
    exact List.mem_map_of_mem hrow'
  have hunique' := (rowsKept_of_steps (Relation.ReflTransGen.single (.ends hends)) hunique).2
  obtain ⟨row'', hrow'', hsame', hkept⟩ := (rowsKept_of_steps hux hunique').1 _ hafter
  have hset : (row'.markReceived ids now).receivedAt ≠ none := by
    rw [EnvelopeRow.markReceived, hsame, if_pos hid]
    exact Option.some_ne_none _
  refine ⟨row'', hrow'', ?_, ?_⟩
  · rw [hsame', EnvelopeRow.toEnvelope_markReceived, hsame]
  · rw [hkept hset]
    exact hset

theorem repeats_of_acked {c c' : StoreConfig} (h : Reachable (store P allows) db₀ c)
    (h₀ : UniqueIds db₀) (h' : Steps (store P allows) c c')
    {first second : StoreEvent} {ids ids' : List Uuid} (hfirst : first ∈ c.log)
    (hids : ackedOf first = some ((user, request), ids))
    (hsecond : second ∈ c'.log.drop c.log.length) (hbegun : BegunSince (store P allows) c second)
    (hids' : ackedOf second = some ((user, request), ids')) : Repeats P first second ids ids' := by
  have hc' : Reachable (store P allows) db₀ c' := h.trans h'
  have hmem : second ∈ c'.log := List.mem_of_mem_drop hsecond
  obtain ⟨hcall', hout'⟩ := ackedOf_eq_some hids'
  have hsince := h'.begunSince hsecond hbegun
  have later : ∀ v, Since (store P allows) c v → RowsKept c.db v ∧ UniqueIds v := by
    rintro v ⟨d, hd, rfl⟩
    exact rowsKept_of_steps (Steps.serial (meets_acks P allows)
      (Reachable.good (meets_acks P allows) h) hd) (uniqueIds_of_acks (serial_acks h) h₀)
  obtain ⟨v, hv, hvpast, hnamed, hmarked⟩ := marked_of_acked h h₀ hfirst hids
  obtain ⟨v', hv', -, hnamed', -⟩ := marked_of_acked hc' h₀ hmem hids'
  obtain ⟨hkept, hunique'⟩ := later v' (hsince.2 v' (List.mem_reverse.mp (List.mem_of_getElem? hv')))
  have hkept' : RowsKept v v' := (rowsKept_of_mem_past (serial_acks h) h₀ v hvpast).trans hkept
  obtain ⟨hbefore, huniqueBefore⟩ := later second.before hsince.1
  -- a row that the first call returned has its `received_at`
  have hset : ∀ row ∈ second.before.messageEnvelopes, row.envelopeId ∈ ids → row.receivedAt ≠ none := by
    intro row hrow hid
    obtain ⟨row₁, hrow₁, hid₁, hset₁⟩ := hmarked _ hid
    obtain ⟨row₂, hrow₂, hsame, hreceived⟩ := hbefore row₁ hrow₁
    have hrows : row₂ = row := by
      refine huniqueBefore.row hrow₂ hrow ?_
      rw [hsame, hid₁]
    rw [← hrows, hreceived hset₁]
    exact hset₁
  refine ⟨⟨v, hv, fun id => ?_⟩, fun row hrow hid => ?_, fun hsub => ?_⟩
  · rw [hnamed, hnamed']
    constructor
    · intro hid
      obtain ⟨hrequested, row, hrow, hrowid, hdevice⟩ := Db.mem_namedBy.mp hid
      obtain ⟨row', hrow', hsame, -⟩ := hkept' row hrow
      refine ⟨Db.mem_namedBy.mpr ⟨hrequested, row', hrow', ?_, ?_⟩, row.toEnvelope,
        List.mem_map_of_mem hrow, hrowid⟩
      · rw [hsame, hrowid]
      · rw [hsame, hdevice]
    · rintro ⟨hid, e, he, heid⟩
      obtain ⟨hrequested, row', hrow', hrowid', hdevice'⟩ := Db.mem_namedBy.mp hid
      obtain ⟨row, hrow, rfl⟩ := List.mem_map.mp he
      obtain ⟨row'', hrow'', hsame, -⟩ := hkept' row hrow
      have hrows : row'' = row' := by
        refine hunique'.row hrow'' hrow' ?_
        rw [hsame, heid, hrowid']
      refine Db.mem_namedBy.mpr ⟨hrequested, row, hrow, heid, ?_⟩
      rw [← hsame, hrows, hdevice']
  · obtain ⟨row', hrow', hmark⟩ := (receivedOnce_of_reachable hc' h₀).marked second hmem row hrow
    rcases hmark with rfl | ⟨hnone, -⟩
    · exact hrow'
    · exact absurd hnone (hset row hrow hid)
  · obtain ⟨-, -, -, now, hmark⟩ :=
      (ackOutcome_of_mem (serial_acks hc') h₀ hmem hcall').acknowledged ids' hout'
    rw [hmark]
    exact Db.markReceived_eq_self fun row hrow hid => hset row hrow (hsub hid)

/-! ### Alone -/

/-- `ackEnvelopes` alone on a committed state: what becomes of it, and the state it leaves. -/
def ackAlone (P : Platform) (db : Db) (user : Uuid) (request : AckEnvelopeRequest) :
    Option (Except Error (Option (List Uuid)) × Db) :=
  ((ackEnvelopes user request).solo (schema P) db {} []).map fun r =>
    (r.1, match r.1 with
      | .ok _ => (schema P).view r.2.1 db
      | .error _ => db)

/-- Alone, the check of the device says whether it is active. -/
theorem solo_selectActiveDevice_eq {device : Uuid} {s : Local Db Write Key} (hs : s.writes = []) :
    ∃ s', (selectActiveDevice user device).solo (schema P) db s [] =
      some (.ok (decide (db.activeOwner device = some user)), s', []) ∧ s'.writes = [] := by
  obtain ⟨s', hrows, hw⟩ := solo_selectLocked (S := schema P) s (fun _ => ownerLocks device user)
    (fun db => if db.activeOwner device = some user then [()] else [])
    fun db _ => (if db.activeOwner device = some user then [()] else []).head?
  rw [hs, Schema.applyAll_nil] at hrows
  refine ⟨s', ?_, hw.trans hs⟩
  rw [selectActiveDevice, Prog.solo_bind_of_ok hrows]
  by_cases h : db.activeOwner device = some user
  · simp [Prog.solo, h]
  · simp [Prog.solo, h]

/-- Alone, the update returns what the table names, and marks it. -/
theorem solo_updateReceived {now : Time} {s : Local Db Write Key} (hs : s.writes = [])
    (hunique : UniqueIds db) :
    ∃ rows s', (updateReceived request.deviceId request.envelopeIds now).solo (schema P) db s [] =
      some (.ok rows, s', []) ∧ rows.map Prod.fst = db.namedBy request ∧
      (schema P).view s' db = db.markReceived (db.namedBy request) now := by
  obtain ⟨s', hrows, hw⟩ : ∃ s', (updateReceived request.deviceId request.envelopeIds now).solo
      (schema P) db s [] = some (.ok ((((schema P).applyAll s.writes db).namedBy request).filterMap
        (recheckReceived request now ((schema P).applyAll s.writes db))), s', []) ∧
      s'.writes = s.writes ++ ((((schema P).applyAll s.writes db).namedBy request).filterMap
        (recheckReceived request now ((schema P).applyAll s.writes db))).map
          fun row => .setReceivedAt row.1 row.2 := solo_updateWhere s _ _ _ _
  rw [hs, Schema.applyAll_nil] at hrows hw
  obtain ⟨hids, hstamps⟩ := @rows_of_recheck db db request now List.prefix_rfl
  refine ⟨_, s', hrows, hids, ?_⟩
  rw [Schema.view, hw, List.nil_append, applyAll_ackRun hunique hstamps, hids]

/-- **What a single acknowledgment does.** -/
theorem ackAlone_eq (hunique : UniqueIds db) : ackAlone P db user request =
    if user.isNil ∨ request.deviceId.isNil ∨ request.envelopeIds.isEmpty ∨
        100 < request.envelopeIds.length then
      some (.error (.invalidArgument "Invalid acknowledgment request"), db)
    else if validIds [] request.envelopeIds = false then
      some (.error (.invalidArgument "Invalid or duplicate envelope identifier"), db)
    else if db.activeOwner request.deviceId = some user then
      some (.ok (some (db.namedBy request)), db.markReceived (db.namedBy request) db.clock)
    else some (.ok none, db) := by
  have hbegin : beginTransaction.solo (schema P) db {} [] =
      some (.ok db.clock, Local.see {} db, []) := rfl
  rw [ackAlone, ackEnvelopes]
  split_ifs with hshape hids hactive
  · rfl
  · rfl
  · obtain ⟨s, hdevice, hw⟩ : ∃ s, (selectActiveDevice user request.deviceId).solo (schema P) db
      (Local.see {} db) [] = some (.ok _, s, []) ∧ s.writes = [] := solo_selectActiveDevice_eq rfl
    obtain ⟨rows, s', hrows, hids', hview⟩ := @solo_updateReceived P db request db.clock s hw hunique
    rw [Prog.solo_bind_of_ok hbegin, Prog.solo_bind_of_ok hdevice, decide_eq_true hactive,
      if_neg (by decide), Prog.solo_bind_of_ok hrows, hids']
    exact congrArg (fun x => some (Except.ok (some (db.namedBy request)), x)) hview
  · obtain ⟨s, hdevice, hw⟩ : ∃ s, (selectActiveDevice user request.deviceId).solo (schema P) db
      (Local.see {} db) [] = some (.ok _, s, []) ∧ s.writes = [] := solo_selectActiveDevice_eq rfl
    rw [Prog.solo_bind_of_ok hbegin, Prog.solo_bind_of_ok hdevice, decide_eq_false hactive, if_pos rfl]
    have hview : (schema P).view s db = db := by rw [Schema.view, hw, Schema.applyAll_nil]
    exact congrArg (fun x => some (Except.ok none, x)) hview

/-- **Idempotence.** On every committed state, the same request again has the same answer and
changes nothing. -/
theorem ackAlone_again (hunique : UniqueIds db) {answer : Except Error (Option (List Uuid))}
    (h : ackAlone P db user request = some (answer, db')) :
    ackAlone P db' user request = some (answer, db') := by
  rw [ackAlone_eq hunique] at h
  split_ifs at h with hshape hids hactive
  · obtain ⟨rfl, rfl⟩ := Prod.ext_iff.mp (Option.some.inj h)
    rw [ackAlone_eq hunique, if_pos hshape]
  · obtain ⟨rfl, rfl⟩ := Prod.ext_iff.mp (Option.some.inj h)
    rw [ackAlone_eq hunique, if_neg hshape, if_pos hids]
  · obtain ⟨rfl, rfl⟩ := Prod.ext_iff.mp (Option.some.inj h)
    have hsame : (db.markReceived (db.namedBy request) db.clock).envelopes = db.envelopes :=
      Db.envelopes_markReceived _ _
    have hunique' : UniqueIds (db.markReceived (db.namedBy request) db.clock) := by
      rw [UniqueIds, hsame]
      exact hunique
    have hactive' : (db.markReceived (db.namedBy request) db.clock).activeOwner request.deviceId =
        some user := hactive
    rw [ackAlone_eq hunique', if_neg hshape, if_neg hids, if_pos hactive', Db.namedBy_congr hsame,
      Db.markReceived_markReceived]
  · obtain ⟨rfl, rfl⟩ := Prod.ext_iff.mp (Option.some.inj h)
    rw [ackAlone_eq hunique, if_neg hshape, if_neg hids, if_neg hactive]

/-! ### The law -/

/-- **Acknowledgment is scoped, exact and idempotent**, in every interleaving of any calls. -/
theorem acknowledgment_exact {c : StoreConfig} (h : Reachable (store P allows) db₀ c)
    (h₀ : UniqueIds db₀) :
    (∀ e ∈ c.log, ∀ user request, e.call = .ackEnvelopes user request → AckOutcome P user request e) ∧
    ReceivedOnce P c ∧
    (∀ c', Steps (store P allows) c c' → ∀ first ∈ c.log, ∀ second ∈ c'.log.drop c.log.length,
      BegunSince (store P allows) c second → ∀ user request ids ids',
        ackedOf first = some ((user, request), ids) → ackedOf second = some ((user, request), ids') →
        Repeats P first second ids ids') ∧
    (∀ db ∈ c.past, ∀ user request answer db', ackAlone P db user request = some (answer, db') →
      ackAlone P db' user request = some (answer, db')) ∧
    ∀ ids : List Uuid, uuidArrayIn (arrayLiteral ids) = some ids := by
  have hs := serial_acks h
  refine ⟨fun e he user request => ackOutcome_of_mem hs h₀ he, receivedOnce_of_reachable h h₀,
    fun c' h' first hfirst second hsecond hbegun user request ids ids' hids hids' => ?_,
    fun db hdb user request answer db' => ackAlone_again ?_, uuidArrayIn_arrayLiteral⟩
  · exact repeats_of_acked h h₀ h' hfirst hids hsecond hbegun hids'
  · have hpre := envelopes_prefix_of_mem_past (serial h) db hdb
    exact (hpre.sublist.map _).nodup (uniqueIds_of_acks hs h₀)

/-- A message, its acknowledgment, and the same one again. -/
theorem acknowledgment_exact_twice : ∃ c c' : StoreConfig,
    Reachable (store Sample.platform Sample.anyone) Sample.start c ∧
    Steps (store Sample.platform Sample.anyone) c c' ∧
    ∃ first ∈ c.log, ∃ second ∈ c'.log.drop c.log.length,
      ackedOf first = some ((Sample.bob, ⟨Sample.laptop, [31, 32]⟩), [31]) ∧
      ackedOf second = some ((Sample.bob, ⟨Sample.laptop, [31, 32]⟩), [31]) ∧
      AckOutcome Sample.platform Sample.bob ⟨Sample.laptop, [31, 32]⟩ first ∧
      Repeats Sample.platform first second [31] [31] := by
  let request : AckEnvelopeRequest := ⟨Sample.laptop, [31, 32]⟩
  have hunique : UniqueIds Sample.start := List.nodup_nil
  obtain ⟨c, c', hc, hquiet, hsteps, ht⟩ := Reachable.of_runCalls_twice
    (store Sample.platform Sample.anyone) Sample.start
    [(.saveNewMessage Sample.alice Sample.phone ⟨21, Sample.laptop, "v1", [1, 2, 3]⟩, [31]),
      (.ackEnvelopes Sample.bob request, [])]
    [(.ackEnvelopes Sample.bob request, [])]
    (fun c c' : StoreConfig => c.log.map ackedOf = [none, some ((Sample.bob, request), [31])] ∧
      (c'.log.drop c.log.length).map ackedOf = [some ((Sample.bob, request), [31])])
    (fun _ _ => trivial) (by decide +kernel)
  obtain ⟨hlog, hlog'⟩ := of_decide_eq_true ht
  have hmem : some ((Sample.bob, request), [(31 : Uuid)]) ∈ c.log.map ackedOf := by simp [hlog]
  have hmem' : some ((Sample.bob, request), [(31 : Uuid)]) ∈ (c'.log.drop c.log.length).map ackedOf := by
    rw [hlog']
    exact List.mem_singleton_self _
  obtain ⟨first, hfirst, hids⟩ := List.mem_map.mp hmem
  obtain ⟨second, hsecond, hids'⟩ := List.mem_map.mp hmem'
  obtain ⟨houtcome, -, hrepeats, -⟩ := acknowledgment_exact hc hunique
  exact ⟨c, c', hc, hsteps, first, hfirst, second, hsecond, hids, hids',
    houtcome first hfirst _ _ (ackedOf_eq_some hids).1,
    hrepeats c' hsteps first hfirst second hsecond (Or.inl (hquiet.not_serves _)) _ _ _ _ hids hids'⟩

/-- **A repetition that finds more.** Bob's device acknowledges an envelope before there is one; then a
message is stored under that identifier; and the same acknowledgment returns it and marks its row. -/
theorem acknowledgment_again_finds_more : ∃ c c' : StoreConfig,
    Reachable (store Sample.platform Sample.anyone) Sample.start c ∧
    ¬ c.Serves (.ackEnvelopes Sample.bob ⟨Sample.laptop, [31]⟩) ∧
    Steps (store Sample.platform Sample.anyone) c c' ∧
    ∃ first ∈ c.log, ∃ second ∈ c'.log.drop c.log.length,
      ackedOf first = some ((Sample.bob, ⟨Sample.laptop, [31]⟩), []) ∧
      ackedOf second = some ((Sample.bob, ⟨Sample.laptop, [31]⟩), [31]) ∧
      ∃ row ∈ second.before.messageEnvelopes, row ∉ (stateAfter Sample.platform second).messageEnvelopes := by
  let request : AckEnvelopeRequest := ⟨Sample.laptop, [31]⟩
  obtain ⟨c, c', hc, hquiet, hsteps, ht⟩ := Reachable.of_runCalls_twice
    (store Sample.platform Sample.anyone) Sample.start
    [(.ackEnvelopes Sample.bob request, [])]
    [(.saveNewMessage Sample.alice Sample.phone ⟨21, Sample.laptop, "v1", [1, 2, 3]⟩, [31]),
      (.ackEnvelopes Sample.bob request, [])]
    (fun c c' : StoreConfig => c.log.any (fun e => decide (ackedOf e = some ((Sample.bob, request), []))) &&
      (c'.log.drop c.log.length).any fun e => decide (ackedOf e = some ((Sample.bob, request), [31])) &&
        e.before.messageEnvelopes.any fun row =>
          decide (row ∉ (stateAfter Sample.platform e).messageEnvelopes))
    (fun _ _ => trivial) (by decide +kernel)
  simp only [Bool.and_eq_true, List.any_eq_true, decide_eq_true_eq] at ht
  obtain ⟨⟨first, hfirst, hids⟩, second, hsecond, hids', hrow⟩ := ht
  exact ⟨c, c', hc, hquiet.not_serves _, hsteps, first, hfirst, second, hsecond, hids, hids', hrow⟩

end ChatBackend
