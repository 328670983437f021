import ChatBackend.Store.Authorization

/-!
# UserRepository: friend requests

`UserRepository::CreateNewFriendship`, `processFriendshipRequest` and `VerifyFriendShip` of
`src/repository/UserRepository.cpp`. A request is stored as pending. Accepting, rejecting and
cancelling it lock its row first, so they take place one after another, and accepting it adds both
directions of the friendship in the same transaction.

## Implementation notes

Which requests `friend_request_pending_pair_unique` forbids is not written down next to the code, so
an insertion that it refuses is one of the rollbacks that can happen at any point.

## Main definitions

* `createNewFriendship`, `processFriendshipRequest`, `verifyFriendShip`
* `FriendRequestSpec`, `ProcessSpec`, `VerifySpec` — what they commit and answer

## Main results

* `wp_createNewFriendship`, `wp_processFriendshipRequest`, `wp_verifyFriendShip`
-/

namespace ChatBackend

open ReadCommitted

/-- The status an action leads to; `none` is the `default` of the `switch`. -/
def FriendRequestAction.targetStatus : FriendRequestAction → Option FriendRequestStatus
  | .accept => some .accepted
  | .reject => some .rejected
  | .cancel => some .cancelled
  | .other _ => none

/-- The user who may take an action: the requester cancels, the recipient does anything else. -/
def FriendRequestRow.authorizedActor (row : FriendRequestRow) (action : FriendRequestAction) : Uuid :=
  if action = .cancel then row.requesterId else row.recipientId

/-- The two directions of a friendship, the requester's first. -/
def FriendRequestRow.members (row : FriendRequestRow) : List (Uuid × Uuid) :=
  [(row.requesterId, row.recipientId), (row.recipientId, row.requesterId)]

theorem FriendRequestAction.targetStatus_ne_pending {action : FriendRequestAction}
    {status : FriendRequestStatus} (h : action.targetStatus = some status) : status ≠ .pending := by
  cases action <;> cases h <;> decide

theorem FriendRequestAction.targetStatus_eq_accepted {action : FriendRequestAction} :
    action.targetStatus = some .accepted ↔ action = .accept := by
  cases action <;> simp [targetStatus]

namespace UserRepository

variable {P : Platform} {db db' : Db} {requestId : Uuid}

/-! ### Creating a request -/

/-- The primary key of `app.friend_request`. -/
def requestViolates (id : Uuid) (db : Db) : Option Error :=
  if (db.friendRequests id).isSome then some (queryError "23505" "friend_request_pkey") else none

/-- `UserRepository::CreateNewFriendship`, one statement that commits by itself: the row it inserts,
joined with the requester's in `app.users`. `none` is the `std::runtime_error` for a requester who
is not there; the insertion is committed by then. -/
def createNewFriendship (myId friendId : Uuid) (message : String) :
    Tx (Option FriendshipRequestRecord) :=
  .read fun db => .draw fun id =>
    let row : FriendRequestRow := ⟨myId, friendId, .pending, some (cString message), db.clock, none⟩
    (insertRow [.friendRequest id] (requestViolates id) (.insertRequest id row)).bind fun _ =>
      .ret <| (db.users myId).map fun user =>
        ⟨id, myId, user.username, user.displayName, row.message.getD "", row.createdAt⟩

/-! ### Processing a request -/

/-- `SELECT requester_id, recipient_id, status FROM app.friend_request WHERE id = $1 FOR UPDATE`. -/
def selectRequest (requestId : Uuid) : Tx (List (Uuid × Uuid × FriendRequestStatus)) :=
  selectLocked (fun _ : Unit => [(.friendRequest requestId, .exclusive)])
    (fun db => ((db.friendRequests requestId).map fun _ => ()).toList)
    fun db _ => (db.friendRequests requestId).map fun row =>
      (row.requesterId, row.recipientId, row.status)

/-- `UPDATE app.friend_request SET status = $2, processed_at = CURRENT_TIMESTAMP
WHERE id = $1 AND status = 'pending' RETURNING id`. -/
def updateRequest (requestId : Uuid) (targetStatus : FriendRequestStatus) (now : Time) :
    Tx (List Uuid) :=
  let qualifies (db : Db) : Option Uuid :=
    ((db.friendRequests requestId).filter fun row => row.status = .pending).map fun _ => requestId
  updateWhere (fun _ => [(.friendRequest requestId, .exclusive)]) (fun db => (qualifies db).toList)
    (fun db _ => qualifies db) fun id => .processRequest id targetStatus now

/-- One row of `INSERT INTO app.friend_relation … ON CONFLICT (user_id, friend_id) DO NOTHING`. The
constraint `friend_relation_not_self` is checked before the conflict. -/
def insertRelation (userId friendId : Uuid) : Tx Unit :=
  if userId = friendId then .throw (queryError "23514" "friend_relation_not_self")
  else insertUnlessPresent (.friendRelation userId friendId) (fun db => db.friendRelation userId friendId)
    (.befriend userId friendId)

/-- `INSERT INTO app.friend_relation (user_id, friend_id) VALUES ($1, $2), ($2, $1)
ON CONFLICT (user_id, friend_id) DO NOTHING`. -/
def insertRelations (requester recipient : Uuid) : Tx Unit :=
  (insertRelation requester recipient).bind fun _ => insertRelation recipient requester

/-- `UserRepository::processFriendshipRequest`. -/
def processFriendshipRequest (myId requestId : Uuid) (action : FriendRequestAction) :
    Tx FriendRequestProcessResult :=
  match action.targetStatus with
  | none => .ret .invalidAction
  | some targetStatus =>
    beginTransaction.bind fun now => (selectRequest requestId).bind fun record =>
      match record with
      | [] => .ret .notFound
      | (requester, recipient, status) :: _ =>
        let authorizedActor := if action = .cancel then requester else recipient
        if myId ≠ authorizedActor then .ret .forbidden
        else if status = targetStatus then .ret .alreadyProcessed
        else if status ≠ .pending then .ret .conflict
        else (updateRequest requestId targetStatus now).bind fun updated =>
          if updated.length ≠ 1 then .ret .conflict
          else if action = .accept then
            (insertRelations requester recipient).bind fun _ => .ret .success
          else .ret .success

/-! ### Verifying a friendship -/

/-- `SELECT fr.id FROM app.friend_relation AS fr WHERE fr.user_id = $1 AND fr.friend_id = $2`. -/
def selectRelation (myId friendId : Uuid) : Tx (List Unit) :=
  .read fun db => .ret (whether (db.friendRelation myId friendId)).toList

/-- `UserRepository::VerifyFriendShip`. -/
def verifyFriendShip (myId friendId : Uuid) : Tx Bool :=
  (selectRelation myId friendId).bind fun rows => .ret !rows.isEmpty

/-! ### Specification -/

/-- What creating a request commits. -/
inductive FriendRequestSpec (me friend : Uuid) (message : String) :
    Option FriendshipRequestRecord → List Write → Db → Prop where
  | stored {r : Option FriendshipRequestRecord} {db : Db} (id : Uuid) (row : FriendRequestRow) :
      db.friendRequests id = none → row.requesterId = me → row.recipientId = friend →
      row.status = .pending → row.message = some (cString message) →
      (∀ record ∈ r, record.requestId = id) →
      FriendRequestSpec me friend message r [.insertRequest id row] db

/-- The writes of an insertion into `app.friend_relation`. -/
def befriendAll (relations : List (Uuid × Uuid)) : List Write :=
  relations.map fun p => .befriend p.1 p.2

/-- What an insertion of the `wanted` rows adds: none that is there, and every one that was not there
when the statement looked. Nobody is to be a friend of themselves. -/
structure Adds (wanted relations : List (Uuid × Uuid)) (seen : List Db) (db : Db) : Prop where
  notSelf : ∀ p ∈ wanted, p.1 ≠ p.2
  subset : relations ⊆ wanted
  absent : ∀ p ∈ relations, db.friendRelation p.1 p.2 = false
  present : ∀ p ∈ wanted, p ∈ relations ∨ ∃ v ∈ seen, v.friendRelation p.1 p.2

/-- What processing a request commits. -/
inductive ProcessSpec (me requestId : Uuid) (action : FriendRequestAction) :
    FriendRequestProcessResult → List Db → List Write → Db → Prop where
  | success {seen : List Db} {db : Db} (row : FriendRequestRow) (status : FriendRequestStatus)
      (now : Time) (relations : List (Uuid × Uuid)) :
      action.targetStatus = some status → db.friendRequests requestId = some row →
      row.status = .pending → me = row.authorizedActor action →
      Adds (if action = .accept then row.members else []) relations seen db →
      ProcessSpec me requestId action .success seen
        (.processRequest requestId status now :: befriendAll relations) db
  | refused {r : FriendRequestProcessResult} {seen : List Db} {db : Db} : r ≠ .success →
      ProcessSpec me requestId action r seen [] db

/-- What verifying a friendship answers: whether there was a row when it looked. -/
structure VerifySpec (me friend : Uuid) (r : Bool) (seen : List Db) (ws : List Write) : Prop where
  readOnly : ws = []
  answer : ∃ v ∈ seen, r = v.friendRelation me friend

/-- **`createNewFriendship` meets its specification.** -/
theorem wp_createNewFriendship {me friend : Uuid} {message : String} (db : Db) :
    wp (schema P) (createNewFriendship me friend message)
      (fun r s db => FriendRequestSpec me friend message r s.writes db) {} db := by
  refine wp_read fun db₀ h₀ => wp_draw fun id => wp_bind (wp_insertRow ?_
    fun s₁ db₁ db₂ hw hse hlo hk h₁ h₂ hv => wp_ret fun db₃ h₃ => ?_)
  · exact List.subset_append_left _ _
  · have hfree : db₁.friendRequests id = none := by
      by_contra hne
      simp [requestViolates, Option.ne_none_iff_isSome.mp hne] at hv
    have hkeep := friendRequests_stable (hk _ (List.mem_singleton_self _)) (h₂.trans h₃)
    rw [hw]
    refine .stored id _ (hkeep.trans hfree) rfl rfl rfl rfl fun record hrecord => ?_
    obtain ⟨user, -, rfl⟩ := Option.map_eq_some_iff.mp hrecord
    rfl

/-- **`verifyFriendShip` meets its specification.** -/
theorem wp_verifyFriendShip {me friend : Uuid} (db : Db) :
    wp (schema P) (verifyFriendShip me friend)
      (fun r s _ => VerifySpec me friend r s.seen s.writes) {} db := by
  refine wp_bind (wp_read fun db₀ h₀ => wp_ret fun db₁ h₁ => wp_ret fun db₂ h₂ => ?_)
  refine ⟨rfl, db₀, List.mem_cons_self .., ?_⟩
  rw [Schema.view, Schema.applyAll_nil, whether]
  cases db₀.friendRelation me friend <;> rfl

/-- The request, found and locked. -/
theorem wp_selectRequest {Q : List (Uuid × Uuid × FriendRequestStatus) → Local Db Write Key → Db → Prop}
    {s : Local Db Write Key} (hs : s.writes = [])
    (hQ : ∀ s' db' rows, s'.writes = [] → s.locks ⊆ s'.locks →
      Interference (schema P) s.locks db db' →
      (∀ r ∈ rows, (Key.friendRequest requestId, Mode.exclusive) ∈ s'.locks ∧ ∃ row,
        db'.friendRequests requestId = some row ∧
          r = (row.requesterId, row.recipientId, row.status)) →
      Q rows s' db') :
    wp (schema P) (selectRequest requestId) Q s db := by
  refine wp_selectLocked (fun _ held a b hl _ hi => ?_)
    fun s₁ db₁ db₂ rows hw hse hm hlo hls h₁ h₂ hrows => ?_
  · rw [hs, Schema.applyAll_nil, Schema.applyAll_nil,
      friendRequests_stable (hl (List.mem_singleton_self _)) hi]
  · simp only [hs, Schema.applyAll_nil] at hrows hls
    refine hQ s₁ db₂ rows (hw.trans hs) hlo (h₁.trans h₂) fun r hr => ?_
    rw [hrows db₂ (Interference.refl _ _)] at hr
    obtain ⟨i, hi, hr⟩ := List.mem_filterMap.mp hr
    obtain ⟨row, hrow, rfl⟩ := Option.map_eq_some_iff.mp hr
    exact ⟨hls i hi (List.mem_singleton_self _), row, hrow, rfl⟩

/-- Changing the status of a request, whose row is locked. -/
theorem wp_updateRequest {status : FriendRequestStatus} {now : Time}
    {Q : List Uuid → Local Db Write Key → Db → Prop} {s : Local Db Write Key} (hs : s.writes = [])
    (hQ : ∀ s' db' rows, s'.writes = rows.map (fun _ => .processRequest requestId status now) →
      rows.length ≤ 1 → s.locks ⊆ s'.locks → Interference (schema P) s.locks db db' →
      Q rows s' db') :
    wp (schema P) (updateRequest requestId status now) Q s db := by
  refine wp_updateWhere (fun id held a b hl _ hi => ?_) (fun id a row hrow => ?_)
    fun s₁ db₁ db₂ rows hw hse hm hlo hls h₁ h₂ hrows => ?_
  · simp only [hs, Schema.applyAll_nil, friendRequests_stable (hl (List.mem_singleton_self _)) hi]
  · obtain ⟨-, -, rfl⟩ := Option.map_eq_some_iff.mp hrow
    exact List.subset_append_left _ _
  · have hnow := hrows db₂ (Interference.refl _ _)
    refine hQ s₁ db₂ rows ?_ ?_ hlo (h₁.trans h₂)
    · rw [hw, hs, List.nil_append]
      refine List.map_congr_left fun id hid => ?_
      rw [hnow] at hid
      obtain ⟨i, -, hid⟩ := List.mem_filterMap.mp hid
      obtain ⟨-, -, rfl⟩ := Option.map_eq_some_iff.mp hid
      rfl
    · rw [hnow]
      exact (List.length_filterMap_le _ _).trans (Option.length_toList_le)

/-- The friendships after an insertion. -/
theorem friendRelation_befriendAll {relations : List (Uuid × Uuid)} {a b : Uuid} :
    ((schema P).applyAll (befriendAll relations) db).friendRelation a b = true ↔
      db.friendRelation a b = true ∨ (a, b) ∈ relations := by
  induction relations generalizing db with
  | nil => simp [befriendAll]
  | cons p relations ih =>
    rw [befriendAll, List.map_cons, Schema.applyAll_cons, schema_apply]
    refine ih.trans ?_
    rw [List.mem_cons, ← or_assoc]
    refine or_congr_left ?_
    by_cases ha : a = p.1 <;> by_cases hb : b = p.2 <;>
      simp [Db.write, Prod.ext_iff, ha, hb]

/-- An insertion touches no request. -/
theorem friendRequests_befriendAll {relations : List (Uuid × Uuid)} :
    ((schema P).applyAll (befriendAll relations) db).friendRequests = db.friendRequests := by
  refine (schema P).applyAll_induct (P := fun x => x.friendRequests = db.friendRequests)
    (fun w hw x hx => ?_) rfl
  obtain ⟨p, -, rfl⟩ := List.mem_map.mp hw
  exact hx

/-- How far an acceptance has got: its request is processed, and of the `wanted` rows it has added
those that were missing. -/
structure Inserting (w : Write) (wanted relations : List (Uuid × Uuid)) (s : Local Db Write Key)
    (db : Db) : Prop where
  writes : s.writes = w :: befriendAll relations
  locked : ∀ p ∈ relations, (Key.friendRelation p.1 p.2, Mode.exclusive) ∈ s.locks
  adds : Adds wanted relations s.seen db

theorem Inserting.stable {w : Write} {wanted relations : List (Uuid × Uuid)}
    {s : Local Db Write Key} (h : Inserting w wanted relations s db)
    (hi : Interference (schema P) s.locks db db') : Inserting w wanted relations s db' := by
  refine ⟨h.writes, h.locked, h.adds.notSelf, h.adds.subset, fun p hp => ?_, h.adds.present⟩
  rw [friendRelation_stable (h.locked p hp) hi]
  exact h.adds.absent p hp

/-- One more wanted row. -/
theorem wp_insertRelation {id a b : Uuid} {status : FriendRequestStatus} {now : Time}
    {wanted relations : List (Uuid × Uuid)} {s : Local Db Write Key}
    {Q : Unit → Local Db Write Key → Db → Prop}
    (h : Inserting (.processRequest id status now) wanted relations s db)
    (hQ : ∀ s' db' relations', s.locks ⊆ s'.locks → Interference (schema P) s.locks db db' →
      Inserting (.processRequest id status now) (wanted ++ [(a, b)]) relations' s' db' →
      Q () s' db') :
    wp (schema P) (insertRelation a b) Q s db := by
  rw [insertRelation]
  split_ifs with hself
  · trivial
  have hwanted : ∀ p ∈ wanted ++ [(a, b)], p.1 ≠ p.2 := by
    intro p hp
    rcases List.mem_append.mp hp with hp | hp
    · exact h.adds.notSelf p hp
    · rw [List.mem_singleton.mp hp]
      exact hself
  have hview : ∀ x : Db, ((schema P).applyAll s.writes x).friendRelation a b = true ↔
      x.friendRelation a b = true ∨ (a, b) ∈ relations := by
    intro x
    rw [h.writes, Schema.applyAll_cons]
    exact friendRelation_befriendAll
  refine wp_insertUnlessPresent (List.Subset.refl _)
    (fun s₁ db₁ db₂ hw hse hm hlo hi hp => hQ s₁ db₂ relations hlo hi ?_)
    fun s₁ db₁ db₂ hw hse hlo hk h₁ h₂ hp => hQ s₁ db₂ (relations ++ [(a, b)]) hlo
      (h₁.trans (h₂.mono hlo)) ?_
  · have hkeep := h.stable hi
    refine ⟨hw.trans h.writes, fun p hp => hlo (h.locked p hp), hwanted, ?_, hkeep.adds.absent,
      fun p hp => ?_⟩
    · exact List.Subset.trans h.adds.subset (List.subset_append_left _ _)
    · rcases List.mem_append.mp hp with hp | hp
      · exact (h.adds.present p hp).imp_right fun ⟨v, hv, hvp⟩ => ⟨v, hse hv, hvp⟩
      · rw [List.mem_singleton.mp hp]
        exact ((hview db₁).mp ‹_›).symm.imp_right fun hp => ⟨db₁, hm, hp⟩
  · have hkeep := h.stable (h₁.trans (h₂.mono hlo))
    have hnew : db₂.friendRelation a b = false := by
      rw [friendRelation_stable hk h₂]
      exact Bool.eq_false_iff.mpr fun hab => Bool.eq_false_iff.mp hp ((hview db₁).mpr (Or.inl hab))
    refine ⟨?_, fun p hp => ?_, hwanted, ?_, fun p hp => ?_, fun p hp => ?_⟩
    · rw [hw, h.writes, befriendAll, befriendAll, List.map_append]
      rfl
    · rcases List.mem_append.mp hp with hp | hp
      · exact hlo (h.locked p hp)
      · rw [List.mem_singleton.mp hp]
        exact hk
    · exact List.append_subset.mpr ⟨List.Subset.trans h.adds.subset (List.subset_append_left _ _),
        List.subset_append_right _ _⟩
    · rcases List.mem_append.mp hp with hp | hp
      · exact hkeep.adds.absent p hp
      · rw [List.mem_singleton.mp hp]
        exact hnew
    · rcases List.mem_append.mp hp with hp | hp
      · exact (h.adds.present p hp).imp (List.mem_append_left _) fun ⟨v, hv, hvp⟩ => ⟨v, hse hv, hvp⟩
      · exact Or.inl (List.mem_append_right _ hp)

/-- What is left to do once the status is changed. -/
theorem wp_insertMembers {action : FriendRequestAction} (row : FriendRequestRow)
    {status : FriendRequestStatus} {now : Time} {s : Local Db Write Key}
    {Q : FriendRequestProcessResult → Local Db Write Key → Db → Prop}
    (hs : s.writes = [.processRequest requestId status now])
    (hQ : ∀ s' db' relations, Inserting (.processRequest requestId status now)
      (if action = .accept then row.members else []) relations s' db' →
      Interference (schema P) s.locks db db' → Q .success s' db') :
    wp (schema P) (if action = .accept then
        (insertRelations row.requesterId row.recipientId).bind fun _ => .ret .success
      else .ret .success) Q s db := by
  have hstart : Inserting (.processRequest requestId status now) [] [] s db :=
    ⟨hs, by simp, by simp, List.Subset.refl _, by simp, by simp⟩
  split_ifs with haccept
  · rw [if_pos haccept] at hQ
    refine wp_bind (wp_bind (wp_insertRelation hstart fun s₁ db₁ relations₁ hlo₁ i₁ h₁ =>
      wp_insertRelation h₁ fun s₂ db₂ relations hlo₂ i₂ h₂ => wp_ret fun db₃ i₃ => ?_))
    exact hQ s₂ db₃ relations (h₂.stable i₃) (i₁.trans ((i₂.trans (i₃.mono hlo₂)).mono hlo₁))
  · rw [if_neg haccept] at hQ
    exact wp_ret fun db₁ i₁ => hQ s db₁ [] (hstart.stable i₁) i₁

/-- **`processFriendshipRequest` meets its specification.** -/
theorem wp_processFriendshipRequest {me : Uuid} {action : FriendRequestAction} (db : Db) :
    wp (schema P) (processFriendshipRequest me requestId action)
      (fun r s db => ProcessSpec me requestId action r s.seen s.writes db) {} db := by
  rw [processFriendshipRequest]
  cases htarget : action.targetStatus with
  | none => exact wp_ret fun db₁ h₁ => .refused (by decide)
  | some status =>
    refine wp_bind (wp_read fun db₀ h₀ => wp_ret fun db₁ h₁ => wp_bind
      (wp_selectRequest rfl fun s₂ db₂ record hw₂ hlo₂ h₂ hrecord => ?_))
    rcases record with _ | ⟨⟨requester, recipient, found⟩, rest⟩
    · exact wp_ret fun db₃ h₃ => hw₂ ▸ .refused (by decide)
    obtain ⟨hk, row, hrow, he⟩ := hrecord _ (List.mem_cons_self ..)
    obtain ⟨rfl, rfl, rfl⟩ : requester = row.requesterId ∧ recipient = row.recipientId ∧
        found = row.status := by simpa using he
    dsimp only
    rw [show (if action = .cancel then row.requesterId else row.recipientId) =
      row.authorizedActor action from rfl]
    by_cases hactor : me ≠ row.authorizedActor action
    · rw [if_pos hactor]
      exact wp_ret fun db₃ h₃ => hw₂ ▸ .refused (by decide)
    by_cases hsame : row.status = status
    · rw [if_neg hactor, if_pos hsame]
      exact wp_ret fun db₃ h₃ => hw₂ ▸ .refused (by decide)
    by_cases hpending : row.status ≠ .pending
    · rw [if_neg hactor, if_neg hsame, if_pos hpending]
      exact wp_ret fun db₃ h₃ => hw₂ ▸ .refused (by decide)
    rw [if_neg hactor, if_neg hsame, if_neg hpending]
    refine wp_bind (wp_updateRequest hw₂ fun s₃ db₃ updated hw₃ hlen hlo₃ h₃ => ?_)
    by_cases hcount : updated.length = 1
    swap
    · obtain rfl : updated = [] := List.length_eq_zero_iff.mp (by omega)
      exact wp_ret fun db₄ h₄ => hw₃ ▸ .refused (by decide)
    rw [if_neg (not_not.mpr hcount)]
    obtain ⟨id, rfl⟩ := List.length_eq_one_iff.mp hcount
    refine wp_insertMembers row hw₃ fun s₄ db₄ relations hdone h₄ => ?_
    rw [hdone.writes]
    have hkeep := friendRequests_stable hk (h₃.trans (h₄.mono hlo₃))
    exact .success row status _ relations htarget (hkeep.trans hrow)
      (not_not.mp hpending) (not_not.mp hactor) hdone.adds

end UserRepository

end ChatBackend
