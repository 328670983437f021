import ChatBackend.Store.Calls

/-!
# Friendships are symmetric and earned

A request is created as pending, and whatever processes it finds it pending under its row lock. So
it is processed at most once, by the one user its action is for. An acceptance adds both directions
of the friendship in the transaction that changes the status, unless they are there already, and
nothing removes them. The two tables therefore tell the same story in every committed state, and it
makes no difference which of the three modules is asked whether two users are friends.

## Main definitions

* `Earned` — a friendship is there, in both directions, exactly when a request was accepted
* `FriendStep` — what one committed call does to the two tables
* `KeepsFriends` — how they may change in the course of a run

## Main results

* `friendStep_of_ends` — nothing else happens to them
* `friendships_earned`
-/

namespace ChatBackend

open ReadCommitted UserRepository

variable {P : Platform} {allows : List StoreEvent → Call → Prop} {a b c db db₀ : Db}

/-! ### How the two tables change -/

theorem FriendRequestRow.mem_members_comm {row : FriendRequestRow} {p q : Uuid} :
    (p, q) ∈ row.members ↔ (q, p) ∈ row.members := by
  simp only [members, List.mem_pair, Prod.mk.injEq]
  tauto

/-- The request `row'` is `row`, possibly processed in the meantime. -/
structure FriendRequestRow.Continues (row row' : FriendRequestRow) : Prop where
  requester : row'.requesterId = row.requesterId
  recipient : row'.recipientId = row.recipientId
  message : row'.message = row.message
  createdAt : row'.createdAt = row.createdAt
  final : row.status ≠ .pending → row' = row

theorem FriendRequestRow.Continues.refl (row : FriendRequestRow) : row.Continues row :=
  ⟨rfl, rfl, rfl, rfl, fun _ => rfl⟩

theorem FriendRequestRow.Continues.trans {r r' r'' : FriendRequestRow} (h : r.Continues r')
    (h' : r'.Continues r'') : r.Continues r'' := by
  refine ⟨h'.requester.trans h.requester, h'.recipient.trans h.recipient,
    h'.message.trans h.message, h'.createdAt.trans h.createdAt, fun hr => ?_⟩
  obtain rfl := h.final hr
  exact h'.final hr

/-- Every friendship of `a` is one of `b`, and every request of `a` is continued in `b`. -/
structure KeepsFriends (a b : Db) : Prop where
  relations : ∀ p q, a.friendRelation p q = true → b.friendRelation p q = true
  requests : ∀ id row, a.friendRequests id = some row →
    ∃ row', b.friendRequests id = some row' ∧ row.Continues row'

theorem KeepsFriends.refl (db : Db) : KeepsFriends db db :=
  ⟨fun _ _ h => h, fun _ row h => ⟨row, h, .refl row⟩⟩

theorem KeepsFriends.trans (h : KeepsFriends a b) (h' : KeepsFriends b c) : KeepsFriends a c := by
  refine ⟨fun p q hpq => h'.relations p q (h.relations p q hpq), fun id row hrow => ?_⟩
  obtain ⟨row', hrow', hc⟩ := h.requests id row hrow
  obtain ⟨row'', hrow'', hc'⟩ := h'.requests id row' hrow'
  exact ⟨row'', hrow'', hc.trans hc'⟩

/-- **Friendships are symmetric and earned**: the rows of `app.friend_relation` are the two
directions of every accepted request. -/
def Earned (db : Db) : Prop :=
  ∀ p q, db.friendRelation p q = true ↔
    ∃ id row, db.friendRequests id = some row ∧ row.status = .accepted ∧ (p, q) ∈ row.members

theorem Earned.symm (h : Earned db) (p q : Uuid) : db.friendRelation p q = db.friendRelation q p := by
  rw [Bool.eq_iff_iff, h p q, h q p]
  simp only [FriendRequestRow.mem_members_comm]

/-- What one committed call does to the two tables. -/
inductive FriendStep (call : Call) (ws : List Write) (a b : Db) : Prop where
  | same : b.friendRelation = a.friendRelation → b.friendRequests = a.friendRequests →
      FriendStep call ws a b
  | created (message : String) (id : Uuid) (row : FriendRequestRow) :
      call = .createNewFriendship row.requesterId row.recipientId message →
      ws = [.insertRequest id row] → a.friendRequests id = none → row.status = .pending →
      b.friendRelation = a.friendRelation →
      b.friendRequests = Function.update a.friendRequests id (some row) → FriendStep call ws a b
  | processed (id : Uuid) (row : FriendRequestRow) (status : FriendRequestStatus) (now : Time) :
      .processRequest id status now ∈ ws → a.friendRequests id = some row → row.status = .pending →
      (status = .accepted → row.requesterId ≠ row.recipientId) →
      (∀ p q, b.friendRelation p q = true ↔
        a.friendRelation p q = true ∨ status = .accepted ∧ (p, q) ∈ row.members) →
      b.friendRequests = Function.update a.friendRequests id
        (some { row with status := status, processedAt := some now }) → FriendStep call ws a b

/-- Processing a pending request continues it. -/
theorem FriendRequestRow.continues_of_pending {row : FriendRequestRow} (h : row.status = .pending)
    (status : FriendRequestStatus) (now : Time) :
    row.Continues { row with status := status, processedAt := some now } :=
  ⟨rfl, rfl, rfl, rfl, fun hne => absurd h hne⟩

/-- A step keeps what there is. -/
theorem FriendStep.keeps {call : Call} {ws : List Write} (h : FriendStep call ws a b) :
    KeepsFriends a b := by
  cases h with
  | same hrel hreq =>
    refine ⟨fun p q hpq => by rwa [hrel], fun id row hrow => ⟨row, by rwa [hreq], .refl row⟩⟩
  | created message id row _ _ hfree _ hrel hreq =>
    refine ⟨fun p q hpq => by rwa [hrel], fun id' row' hrow' => ⟨row', ?_, .refl row'⟩⟩
    have hne : id' ≠ id := by
      rintro rfl
      cases hfree.symm.trans hrow'
    rw [hreq, Function.update_of_ne hne, hrow']
  | processed id row status now _ hrow hpending _ hrel hreq =>
    refine ⟨fun p q hpq => (hrel p q).mpr (Or.inl hpq), fun id' row' hrow' => ?_⟩
    by_cases hid : id' = id
    · subst hid
      obtain rfl : row = row' := Option.some.inj (hrow.symm.trans hrow')
      exact ⟨_, (congrFun hreq _).trans (Function.update_self ..),
        FriendRequestRow.continues_of_pending hpending status now⟩
    · exact ⟨row', by rw [hreq, Function.update_of_ne hid, hrow'], .refl row'⟩

/-- **A step keeps friendships earned.** -/
theorem FriendStep.earned {call : Call} {ws : List Write} (h : FriendStep call ws a b)
    (ha : Earned a) : Earned b := by
  intro p q
  cases h with
  | same hrel hreq =>
    rw [hrel, hreq]
    exact ha p q
  | created message id row _ _ hfree hpending hrel hreq =>
    rw [hrel, ha p q, hreq]
    refine exists_congr fun id' => ?_
    by_cases hid : id' = id
    · subst hid
      simp [hfree, hpending]
    · simp [Function.update_of_ne hid]
  | processed id row status now _ hrow hpending _ hrel hreq =>
    rw [hrel p q, ha p q, hreq]
    constructor
    · rintro (⟨id', row', hrow', hacc, hmem⟩ | ⟨rfl, hmem⟩)
      · -- a request that was accepted before is not the one processed now
        have hid : id' ≠ id := by
          rintro rfl
          obtain rfl : row = row' := Option.some.inj (hrow.symm.trans hrow')
          cases hpending.symm.trans hacc
        exact ⟨id', row', by rw [Function.update_of_ne hid, hrow'], hacc, hmem⟩
      · exact ⟨id, _, Function.update_self .., rfl, hmem⟩
    · rintro ⟨id', row', hrow', hacc, hmem⟩
      by_cases hid : id' = id
      · subst hid
        rw [Function.update_self] at hrow'
        obtain rfl := Option.some.inj hrow'
        exact Or.inr ⟨hacc, hmem⟩
      · rw [Function.update_of_ne hid] at hrow'
        exact Or.inl ⟨id', row', hrow', hacc, hmem⟩

/-- Nobody is a friend of themselves. -/
def NotSelf (db : Db) : Prop := ∀ p, db.friendRelation p p = false

/-- **A step keeps it so**: the constraint of the table is checked for what is inserted. -/
theorem FriendStep.notSelf {call : Call} {ws : List Write} (h : FriendStep call ws a b)
    (ha : NotSelf a) : NotSelf b := by
  intro p
  cases h with
  | same hrel _ => rw [hrel, ha p]
  | created _ _ _ _ _ _ _ hrel _ => rw [hrel, ha p]
  | processed id row status now _ _ _ hself hrel _ =>
    refine Bool.eq_false_iff.mpr fun hp => ?_
    rcases (hrel p p).mp hp with hold | ⟨haccepted, hmem⟩
    · exact Bool.eq_false_iff.mp (ha p) hold
    · refine hself haccepted ?_
      rcases List.mem_pair.mp hmem with h | h
      · exact (congrArg Prod.fst h).symm.trans (congrArg Prod.snd h)
      · exact (congrArg Prod.snd h).symm.trans (congrArg Prod.fst h)

/-! ### Every committed call is such a step -/

/-- Of the calls that clients make, only these two write the two tables. -/
def OnlyRequestsWrite (allows : List StoreEvent → Call → Prop) : Prop :=
  ∀ log call, allows log call →
    Table.friendRelation ∈ call.tables ∨ Table.friendRequests ∈ call.tables →
      (∃ me friend message, call = .createNewFriendship me friend message) ∨
        ∃ me id action, call = .processFriendshipRequest me id action

/-- Creating a request is a step. -/
theorem friendStep_of_create {me friend : Uuid} {message : String}
    {r : Option FriendshipRequestRecord} {ws : List Write}
    (h : FriendRequestSpec me friend message r ws db) :
    FriendStep (.createNewFriendship me friend message) ws db ((schema P).applyAll ws db) := by
  cases h with
  | stored id row hfree hrequester hrecipient hpending =>
    refine .created message id row (by rw [hrequester, hrecipient]) rfl hfree hpending rfl ?_
    rw [Schema.applyAll_cons, Schema.applyAll_nil, schema_apply, Db.write, hfree]
    rfl

/-- Processing a request is a step, if the friendships it found are still there. -/
theorem friendStep_of_process {me id : Uuid} {action : FriendRequestAction}
    {r : FriendRequestProcessResult} {seen : List Db} {ws : List Write}
    (h : ProcessSpec me id action r seen ws db)
    (hkept : ∀ v ∈ seen, ∀ p q, v.friendRelation p q = true → db.friendRelation p q = true) :
    FriendStep (.processFriendshipRequest me id action) ws db ((schema P).applyAll ws db) := by
  cases h with
  | refused => exact .same rfl rfl
  | success row status now relations htarget hrow hpending _ hadds =>
    refine .processed id row status now (List.mem_cons_self ..) hrow hpending (fun haccepted => ?_)
      (fun p q => ?_) ?_
    · rw [haccepted, FriendRequestAction.targetStatus_eq_accepted] at htarget
      rw [if_pos htarget] at hadds
      exact hadds.notSelf (row.requesterId, row.recipientId) (List.mem_cons_self ..)
    · rw [Schema.applyAll_cons, friendRelation_befriendAll]
      have hwanted : (p, q) ∈ (if action = .accept then row.members else []) ↔
          status = .accepted ∧ (p, q) ∈ row.members := by
        have hiff : action = .accept ↔ status = .accepted := by
          rw [← FriendRequestAction.targetStatus_eq_accepted, htarget, Option.some.injEq]
        rw [← hiff]
        split_ifs with haccept <;> simp [haccept]
      rw [← hwanted]
      constructor
      · exact Or.imp_right fun hmem => hadds.subset hmem
      · rintro (hpq | hmem)
        · exact Or.inl hpq
        · rcases hadds.present _ hmem with hnew | ⟨v, hv, hold⟩
          · exact Or.inr hnew
          · exact Or.inl (hkept v hv p q hold)
    · rw [Schema.applyAll_cons, friendRequests_befriendAll, schema_apply, Db.write, hrow]
      rfl

/-- **Nothing else happens to the two tables.** -/
theorem friendStep_of_ends (hallows : OnlyRequestsWrite allows) {x : StoreState} {e : StoreEvent}
    (he : Serial.Ends (store P allows) (Committed P) x e) (hkept : ∀ v ∈ x.past, KeepsFriends v x.db) :
    FriendStep e.call e.writes x.db ((schema P).applyAll e.writes x.db) := by
  rcases he.writes with hw | ⟨r, hspec⟩
  · rw [hw]
    exact .same rfl rfl
  by_cases ht : Table.friendRelation ∈ e.call.tables ∨ Table.friendRequests ∈ e.call.tables
  · obtain ⟨log₀, -, hallowed⟩ := he.allowed
    rcases hallows log₀ e.call hallowed ht with ⟨me, friend, message, hcall⟩ |
      ⟨me, id, action, hcall⟩
    · rw [hcall] at hspec ⊢
      cases hspec with
      | createNewFriendship h => exact friendStep_of_create h
    · rw [hcall] at hspec ⊢
      cases hspec with
      | processFriendshipRequest h =>
        exact friendStep_of_process h fun v hv p q => (hkept v (he.seen hv)).relations p q
  · push Not at ht
    exact .same (hspec.frame belongsTo_friendRelation ht.1)
      (hspec.frame belongsTo_friendRequests ht.2)

/-! ### Whole runs -/

/-- The event is a call of the requester's that created this request as pending. -/
def Creates (e : StoreEvent) (id : Uuid) (row : FriendRequestRow) : Prop :=
  ∃ message row₀, e.call = .createNewFriendship row.requesterId row.recipientId message ∧
    e.writes = [.insertRequest id row₀] ∧ row₀.status = .pending ∧ row₀.Continues row

/-- The event gave this request its status. -/
def Processes (e : StoreEvent) (id : Uuid) (row : FriendRequestRow) : Prop :=
  ∃ now, row.processedAt = some now ∧ .processRequest id row.status now ∈ e.writes

/-- The request's history is on record. -/
structure Recorded (log : List StoreEvent) (id : Uuid) (row : FriendRequestRow) : Prop where
  created : ∃ e ∈ log, Creates e id row
  processed : row.status ≠ .pending → ∃ e ∈ log, Processes e id row

theorem Recorded.mono {log log' : List StoreEvent} {id : Uuid} {row : FriendRequestRow}
    (h : Recorded log id row) (hl : log ⊆ log') : Recorded log' id row :=
  ⟨h.created.imp fun _ he => ⟨hl he.1, he.2⟩,
    fun hne => (h.processed hne).imp fun _ he => ⟨hl he.1, he.2⟩⟩

/-- A step keeps the record. -/
theorem FriendStep.recorded {e : StoreEvent} {log : List StoreEvent}
    (h : FriendStep e.call e.writes a b)
    (ha : ∀ id row, a.friendRequests id = some row → Recorded log id row) :
    ∀ id row, b.friendRequests id = some row → Recorded (log ++ [e]) id row := by
  have hmono : log ⊆ log ++ [e] := List.subset_append_left _ _
  have hlast : e ∈ log ++ [e] := List.mem_append_right _ (List.mem_singleton_self _)
  intro id row hb
  cases h with
  | same _ hreq =>
    rw [hreq] at hb
    exact (ha id row hb).mono hmono
  | created message id₀ row₀ hcall hwrites _ hpending _ hreq =>
    rw [hreq] at hb
    by_cases hid : id = id₀
    · subst hid
      rw [Function.update_self] at hb
      obtain rfl := Option.some.inj hb
      exact ⟨⟨e, hlast, message, row₀, hcall, hwrites, hpending, .refl row₀⟩,
        fun hne => absurd hpending hne⟩
    · rw [Function.update_of_ne hid] at hb
      exact (ha id row hb).mono hmono
  | processed id₀ row₀ status now hwrites hrow hpending _ _ hreq =>
    rw [hreq] at hb
    by_cases hid : id = id₀
    · subst hid
      rw [Function.update_self] at hb
      obtain rfl := Option.some.inj hb
      obtain ⟨f, hf, message, first, hcall, hcreated, hfirst, hcont⟩ := (ha id row₀ hrow).created
      exact ⟨⟨f, hmono hf, message, first, hcall, hcreated, hfirst,
        hcont.trans (FriendRequestRow.continues_of_pending hpending status now)⟩,
        fun _ => ⟨e, hlast, now, rfl, hwrites⟩⟩
    · rw [Function.update_of_ne hid] at hb
      exact (ha id row hb).mono hmono

/-- What serial runs keep. -/
structure FriendInv (x : StoreState) : Prop where
  keeps : ∀ v ∈ x.past, KeepsFriends v x.db
  earned : ∀ v ∈ x.past, Earned v
  notSelf : ∀ v ∈ x.past, NotSelf v
  current : x.db ∈ x.past
  recorded : ∀ id row, x.db.friendRequests id = some row → Recorded x.log id row

/-- No request has been made and nobody is anybody's friend. -/
structure Unacquainted (db : Db) : Prop where
  requests : ∀ id, db.friendRequests id = none
  relations : ∀ p q, db.friendRelation p q = false

theorem Unacquainted.earned (h : Unacquainted db) : Earned db := by
  intro p q
  simp [h.requests, h.relations]

theorem friendInv_of_reachable (hallows : OnlyRequestsWrite allows) (h₀ : Unacquainted db₀)
    {x : StoreState} (h : Serial.Reachable (store P allows) (Committed P) db₀ x) : FriendInv x := by
  refine Serial.induction (P := FriendInv) (fun x e he hx => ?_) (fun x db hd hx => ?_) h ?_
  · have hstep := friendStep_of_ends hallows he hx.keeps
    exact ⟨List.forall_mem_cons.mpr ⟨.refl _, fun v hv => (hx.keeps v hv).trans hstep.keeps⟩,
      List.forall_mem_cons.mpr ⟨hstep.earned (hx.earned _ hx.current), hx.earned⟩,
      List.forall_mem_cons.mpr ⟨hstep.notSelf (hx.notSelf _ hx.current), hx.notSelf⟩,
      List.mem_cons_self .., hstep.recorded hx.recorded⟩
  · obtain ⟨now, -, rfl⟩ := hd
    have hsame : KeepsFriends x.db { x.db with clock := now } :=
      ⟨fun _ _ hpq => hpq, fun _ row hrow => ⟨row, hrow, .refl row⟩⟩
    have hearned : Earned { x.db with clock := now } := fun p q => hx.earned x.db hx.current p q
    have hself : NotSelf { x.db with clock := now } := fun p => hx.notSelf x.db hx.current p
    exact ⟨List.forall_mem_cons.mpr ⟨.refl _, fun v hv => (hx.keeps v hv).trans hsame⟩,
      List.forall_mem_cons.mpr ⟨hearned, hx.earned⟩, List.forall_mem_cons.mpr ⟨hself, hx.notSelf⟩,
      List.mem_cons_self .., hx.recorded⟩
  · exact ⟨List.forall_mem_singleton.mpr (.refl _), List.forall_mem_singleton.mpr h₀.earned,
      List.forall_mem_singleton.mpr fun p => h₀.relations p p, List.mem_singleton_self _,
      fun id row hrow => by cases (h₀.requests id).symm.trans hrow⟩

/-- The event is a call that processed this request, with or without success. -/
def Handles (e : StoreEvent) (id : Uuid) : Prop :=
  ∃ me action, e.call = .processFriendshipRequest me id action

/-- The event is a call that returned `Success` for this request. -/
def SucceedsFor (e : StoreEvent) (id : Uuid) : Prop :=
  Handles e id ∧ e.outcome = .returned (.processed .success)

/-- **A success** finds the request pending and leaves it processed. -/
theorem SucceedsFor.rows {x : StoreState} {e : StoreEvent} {id : Uuid} (h : SucceedsFor e id)
    (he : Serial.Ends (store P allows) (Committed P) x e) :
    (∃ row, x.db.friendRequests id = some row ∧ row.status = .pending) ∧
      ∃ row, ((schema P).applyAll e.writes x.db).friendRequests id = some row ∧
        row.status ≠ .pending := by
  obtain ⟨⟨me, action, hcall⟩, hout⟩ := h
  have hspec := he.returned hout
  rw [hcall] at hspec
  generalize e.writes = ws at hspec ⊢
  cases hspec with
  | processFriendshipRequest hspec =>
    cases hspec with
    | refused hne => exact absurd rfl hne
    | success row status now relations htarget hrow hpending =>
      refine ⟨⟨row, hrow, hpending⟩, { row with status := status, processedAt := some now }, ?_,
        FriendRequestAction.targetStatus_ne_pending htarget⟩
      rw [Schema.applyAll_cons, friendRequests_befriendAll]
      simp [Db.write, hrow]

/-- Whatever is done to a processed request commits nothing. -/
theorem Handles.writes_eq_nil {x : StoreState} {e : StoreEvent} {id : Uuid} {row : FriendRequestRow}
    (h : Handles e id) (he : Serial.Ends (store P allows) (Committed P) x e)
    (hrow : x.db.friendRequests id = some row) (hne : row.status ≠ .pending) : e.writes = [] := by
  obtain ⟨me, action, hcall⟩ := h
  rcases he.writes with hw | ⟨r, hspec⟩
  · exact hw
  rw [hcall] at hspec
  generalize e.writes = ws at hspec
  cases hspec with
  | processFriendshipRequest hspec =>
    cases hspec with
    | refused => rfl
    | success row' status now relations _ hrow' hpending =>
      obtain rfl : row = row' := Option.some.inj (hrow.symm.trans hrow')
      exact absurd hpending hne

/-! ### The three tests -/

/-- What a query answers on a committed state. -/
def answer {α : Type} (P : Platform) (db : Db) (query : Tx α) : Option α :=
  match query.solo (schema P) db {} [] with
  | some (.ok result, _, _) => some result
  | _ => none

/-- A locking query answers with the rows it finds and keeps. -/
theorem answer_selectLocked {ι γ : Type} {locks : ι → List (Key × Mode)} {find : Db → List ι}
    {recheck : Db → ι → Option γ} :
    answer P db (selectLocked locks find recheck) = some ((find db).filterMap (recheck db)) := by
  obtain ⟨s, hs, -⟩ : ∃ s', (selectLocked locks find recheck : Tx (List γ)).solo (schema P) db {} [] =
      some (.ok ((find db).filterMap (recheck db)), s', []) ∧ s'.writes = [] :=
    solo_selectLocked {} locks find recheck
  rw [answer, hs]

/-- The test of `VerifyFriendShip`. -/
theorem answer_verifyFriendShip (p q : Uuid) :
    answer P db (verifyFriendShip p q) = some (db.friendRelation p q) := by
  show some (!(whether (db.friendRelation p q)).toList.isEmpty) = some (db.friendRelation p q)
  cases db.friendRelation p q <;> rfl

/-- The test of `KeyRepository`: there is a row. -/
theorem answer_selectFriendship (p q : Uuid) :
    (answer P db (KeyRepository.selectFriendship p q)).map (fun rows => !rows.isEmpty) =
      some (db.friendRelation p q) := by
  rw [KeyRepository.selectFriendship, answer_selectLocked, whether]
  cases db.friendRelation p q <;> rfl

/-- The test of `EnvelopeRepository`: there are two rows. -/
theorem answer_selectFriendships (p q : Uuid) :
    (answer P db (EnvelopeRepository.selectFriendships p q)).map (fun rows => rows.length == 2) =
      some (db.friendRelation p q && db.friendRelation q p) := by
  rw [EnvelopeRepository.selectFriendships, answer_selectLocked, EnvelopeRepository.directions]
  rcases le_total p q with h | h
  all_goals
    simp only [h, min_eq_left, min_eq_right, max_eq_left, max_eq_right]
    cases hpq : db.friendRelation p q <;> cases hqp : db.friendRelation q p <;> simp [hpq, hqp]

/-- What holds of every run about requests and friendships. -/
structure FriendshipsEarned (P : Platform) (c : StoreConfig) : Prop where
  /-- What is committed now is one of the states that follow. -/
  current : c.db ∈ c.past
  /-- A request stays what it was, except that a pending one may be processed. -/
  final : ∀ v ∈ c.past, ∀ id row, v.friendRequests id = some row →
    ∃ row', c.db.friendRequests id = some row' ∧ row.Continues row'
  /-- Every request was created as pending, by its requester. -/
  created : ∀ id row, c.db.friendRequests id = some row → ∃ e ∈ c.log, Creates e id row
  /-- Every request that is not pending was processed. -/
  processed : ∀ id row, c.db.friendRequests id = some row → row.status ≠ .pending →
    ∃ e ∈ c.log, Processes e id row
  /-- Only a pending request is processed: cancelled by its requester, accepted or rejected by its
  recipient. -/
  authorized : ∀ e ∈ c.log, ∀ id status now, .processRequest id status now ∈ e.writes →
    ∃ me action row, e.call = .processFriendshipRequest me id action ∧
      action.targetStatus = some status ∧ e.before.friendRequests id = some row ∧
      row.status = .pending ∧
      (status = .cancelled ∧ me = row.requesterId ∨
        (status = .accepted ∨ status = .rejected) ∧ me = row.recipientId)
  /-- No request is processed with success twice. -/
  once : ∀ l₁ e l₂ id, c.log = l₁ ++ e :: l₂ → SucceedsFor e id → ∀ f ∈ l₂, ¬ SucceedsFor f id
  /-- Friendships are symmetric, -/
  symmetric : ∀ v ∈ c.past, ∀ p q, v.friendRelation p q = v.friendRelation q p
  /-- and earned. -/
  earned : ∀ v ∈ c.past, ∀ p q, v.friendRelation p q = true ↔
    ∃ id row, v.friendRequests id = some row ∧ row.status = .accepted ∧ (p, q) ∈ row.members
  /-- Nobody is a friend of themselves. -/
  notSelf : ∀ v ∈ c.past, NotSelf v
  /-- Repeating an action on a processed request changes nothing. -/
  replayed : ∀ e ∈ c.log, ∀ me id action row, e.call = .processFriendshipRequest me id action →
    e.before.friendRequests id = some row → row.status ≠ .pending → e.writes = []
  /-- The three modules answer alike. -/
  tests : ∀ v ∈ c.past, ∀ p q,
    (answer P v (KeyRepository.selectFriendship p q)).map (fun rows => !rows.isEmpty) =
        answer P v (verifyFriendShip p q) ∧
      (answer P v (EnvelopeRepository.selectFriendships p q)).map (fun rows => rows.length == 2) =
        answer P v (verifyFriendShip p q) ∧
      answer P v (verifyFriendShip p q) = some (v.friendRelation p q)

/-- Who processes a request may do so. -/
theorem authorized_of_ends (hallows : OnlyRequestsWrite allows) {x : StoreState} {e : StoreEvent}
    (he : Serial.Ends (store P allows) (Committed P) x e) {id : Uuid} {status : FriendRequestStatus}
    {now : Time} (hw : .processRequest id status now ∈ e.writes) :
    ∃ me action row, e.call = .processFriendshipRequest me id action ∧
      action.targetStatus = some status ∧ x.db.friendRequests id = some row ∧
      row.status = .pending ∧
      (status = .cancelled ∧ me = row.requesterId ∨
        (status = .accepted ∨ status = .rejected) ∧ me = row.recipientId) := by
  rcases he.writes with hnil | ⟨r, hspec⟩
  · rw [hnil] at hw
    cases hw
  have htable : Table.friendRequests ∈ e.call.tables := hspec.tables _ hw
  obtain ⟨log₀, -, hallowed⟩ := he.allowed
  generalize e.writes = ws at hw hspec
  rcases hallows log₀ e.call hallowed (Or.inr htable) with ⟨me, friend, message, hcall⟩ |
    ⟨me, id', action, hcall⟩
  · rw [hcall] at hspec
    cases hspec with
    | createNewFriendship hspec =>
      cases hspec with
      | stored => cases List.mem_singleton.mp hw
  · rw [hcall] at hspec
    cases hspec with
    | processFriendshipRequest hspec =>
      cases hspec with
      | refused => cases hw
      | success row status' now' relations htarget hrow hpending hactor =>
        obtain ⟨rfl, rfl, -⟩ : id = id' ∧ status = status' ∧ now = now' := by
          rcases List.mem_cons.mp hw with heq | hw
          · exact Write.processRequest.inj heq
          · obtain ⟨p, -, hp⟩ := List.mem_map.mp hw
            cases hp
        refine ⟨me, action, row, hcall, htarget, hrow, hpending, ?_⟩
        rw [FriendRequestRow.authorizedActor] at hactor
        cases action <;> cases htarget <;> simp [hactor]

/-- **Friendship is symmetric and earned.** -/
theorem friendships_earned {c : StoreConfig} (h : Reachable (store P allows) db₀ c)
    (hallows : OnlyRequestsWrite allows) (h₀ : Unacquainted db₀) : FriendshipsEarned P c := by
  have hs := serial h
  have hinv := friendInv_of_reachable hallows h₀ hs
  refine ⟨hinv.current, fun v hv => (hinv.keeps v hv).requests,
    fun id row hrow => (hinv.recorded id row hrow).created,
    fun id row hrow => (hinv.recorded id row hrow).processed,
    fun e he id status now hw => ?_, fun l₁ e l₂ id hlog hsucc f hf hsucc' => ?_,
    fun v hv => (hinv.earned v hv).symm, hinv.earned, hinv.notSelf,
    fun e he me id action row hcall hrow hne => ?_, fun v hv p q => ⟨?_, ?_, ?_⟩⟩
  · obtain ⟨u, -, hends, -⟩ := hs.split_mem he
    rw [hends.before]
    exact authorized_of_ends hallows hends hw
  · obtain ⟨u, v, hu, -, hue, huv, hvf, -⟩ := hs.split_two hlog hf
    have hv := friendInv_of_reachable hallows h₀ ((hu.tail (.ends hue)).trans huv)
    -- the request that `e` left processed is the one that `f` found pending
    obtain ⟨-, row, hrow, hprocessed⟩ := hsucc.rows hue
    obtain ⟨⟨row', hrow', hpending⟩, -⟩ := hsucc'.rows hvf
    have hpast := huv.past_subset (List.mem_cons_self ..)
    obtain ⟨row'', hrow'', hcont⟩ := (hv.keeps _ hpast).requests id row hrow
    obtain rfl : row' = row'' := Option.some.inj (hrow'.symm.trans hrow'')
    obtain rfl := hcont.final hprocessed
    exact hprocessed hpending
  · obtain ⟨u, -, hends, -⟩ := hs.split_mem he
    rw [hends.before] at hrow
    exact Handles.writes_eq_nil ⟨me, action, hcall⟩ hends hrow hne
  · rw [answer_selectFriendship, answer_verifyFriendShip]
  · rw [answer_selectFriendships, answer_verifyFriendShip, ← (hinv.earned v hv).symm p q,
      Bool.and_self]
  · exact answer_verifyFriendShip p q

namespace Sample

/-- The small store before anybody has made a friend. -/
def strangers : Db := { start with friendRelation := fun _ _ => false }

/-- Any call but those that write friendships by hand. -/
def requesting (_ : List StoreEvent) (call : Call) : Prop :=
  ∀ p q, call ≠ .befriend p q ∧ call ≠ .unfriend p q

theorem onlyRequestsWrite_requesting : OnlyRequestsWrite requesting := by
  intro log call hcall ht
  cases call with
  | createNewFriendship me friend message => exact Or.inl ⟨me, friend, message, rfl⟩
  | processFriendshipRequest me id action => exact Or.inr ⟨me, id, action, rfl⟩
  | befriend p q => exact absurd rfl (hcall p q).1
  | unfriend p q => exact absurd rfl (hcall p q).2
  | _ => simp [Call.tables] at ht

end Sample

/-- Two requests cross, both are accepted, and everybody tries again. -/
theorem friendships_earned_two_requests : ∃ c : StoreConfig,
    Reachable (store Sample.platform Sample.requesting) Sample.strangers c ∧
      c.log.map Event.outcome = [
        .returned (.requested (some ⟨21, Sample.alice, "alice", "Alice", "hi", 0⟩)),
        .returned (.requested (some ⟨22, Sample.bob, "bob", "Bob", "hello", 0⟩)),
        .returned (.processed .forbidden), .returned (.verified false),
        .returned (.processed .success), .returned (.processed .alreadyProcessed),
        .returned (.processed .conflict), .returned (.processed .success),
        .returned (.verified true)] ∧
      FriendshipsEarned Sample.platform c := by
  obtain ⟨c, hc, -, ht⟩ := Reachable.of_runCalls (store Sample.platform Sample.requesting)
    Sample.strangers
    [(.createNewFriendship Sample.alice Sample.bob "hi", [21]),
      (.createNewFriendship Sample.bob Sample.alice "hello", [22]),
      (.processFriendshipRequest Sample.alice 21 .accept, []),
      (.verifyFriendShip Sample.alice Sample.bob, []),
      (.processFriendshipRequest Sample.bob 21 .accept, []),
      (.processFriendshipRequest Sample.bob 21 .accept, []),
      (.processFriendshipRequest Sample.alice 21 .cancel, []),
      (.processFriendshipRequest Sample.alice 22 .accept, []),
      (.verifyFriendShip Sample.alice Sample.bob, [])]
    (fun c : StoreConfig => c.log.map Event.outcome = [
      .returned (.requested (some ⟨21, Sample.alice, "alice", "Alice", "hi", 0⟩)),
      .returned (.requested (some ⟨22, Sample.bob, "bob", "Bob", "hello", 0⟩)),
      .returned (.processed .forbidden), .returned (.verified false),
      .returned (.processed .success), .returned (.processed .alreadyProcessed),
      .returned (.processed .conflict), .returned (.processed .success),
      .returned (.verified true)])
    (by simp [store, Sample.requesting]) (by decide +kernel)
  exact ⟨c, hc, of_decide_eq_true ht, friendships_earned hc Sample.onlyRequestsWrite_requesting
    ⟨fun _ => rfl, fun _ _ => rfl⟩⟩

end ChatBackend
