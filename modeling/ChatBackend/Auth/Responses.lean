import ChatBackend.Auth.Passwords

/-!
# What responses say about the store

A request changes the store once at most, in one transaction of its own thread. If its response is a
success, the change has been committed, or had been before; and if it is not, and nothing has thrown,
nothing has been committed. Only an exception leaves it open, which a lost connection may have caused.

## Main definitions

* `ServerWorld.Committed`, `ServerWorld.Changed` — what a call has committed
* `ServerWorld.Found` — it has found that it had been done before

## Main results

* `changed_iff` — an answer tells whether the transaction has written anything
* `responses_tell_the_truth`
-/

namespace ChatBackend

open Effects ReadCommitted
open Effects.Threads (pastOf mem_pastOf answered_of_reachable)

/-! ### What a call has committed -/

/-- **The transaction of a thread** behind a call with this answer has committed these writes. It is the
only one that the thread has had with the call. -/
def ServerWorld.Committed (w : ServerWorld) (t : ℕ) (e : ServerEvent) (writes : List Write) : Prop :=
  ∃ call reply ans, e.answer = .ok ans ∧ e.op.transaction = some (call, reply) ∧
    ∃ before x after, w.clients.log = before ++ x :: after ∧ x.call = (some t, call) ∧
      x.outcome = .returned (reply ans) ∧ x.writes = writes ∧
      ∀ y ∈ before ++ after, y.call ≠ (some t, call)

/-- The account of this event has been made for the thread. -/
def ServerWorld.Registered (w : ServerWorld) (t : ℕ) (e : ServerEvent) : Prop :=
  ∃ email passwordHash displayName username, ∃ user : User,
    e = ⟨.createNewUserByEmail email passwordHash displayName username, .ok (some user)⟩ ∧
      (t, user.id) ∈ w.registered ∧
      (⟨user.id, cString email, cString passwordHash⟩ : CredentialRow) ∈ w.accounts.credentials

/-- The call of the thread has changed the tables, by its transaction or by an account. -/
def ServerWorld.Changed (w : ServerWorld) (t : ℕ) (e : ServerEvent) : Prop :=
  (∃ writes, w.Committed t e writes ∧ writes ≠ []) ∨ w.Registered t e

/-- The call has found that it had been done before, and its transaction has written nothing. -/
def ServerWorld.Found (w : ServerWorld) (t : ℕ) (e : ServerEvent) : Prop :=
  w.Committed t e [] ∧
    ((∃ myId deviceId, e = ⟨.revokeUserDevice myId deviceId, .ok .alreadyRevoked⟩) ∨
      ∃ myId requestId action,
        e = ⟨.processFriendshipRequest myId requestId action, .ok .alreadyProcessed⟩)

variable {D : Deployment} {P : Platform} {db db₀ : Db} {now₀ : Time} {c : ServerRun}
  {before after : List ServerRecord} {z : ServerRecord} {t : ℕ} {op : ServerCall}
  {e : ServerEvent} {w w' : ServerWorld}

/-! ### Answers and writes -/

/-- **An answer tells** whether the transaction has written anything. -/
theorem changed_iff {parser : JsonParser} {past : List ServerEvent} {call : Call}
    {reply : op.Answer → Reply} {ans : op.Answer} {seen : List Db} {ws : List Write}
    (hwrite : op.isWrite = true) (hgrounds : op.Grounds parser past)
    (htransaction : op.transaction = some (call, reply))
    (h : ChatBackend.Committed P call (reply ans) seen ws db) :
    op.changed ans = true ↔ ws ≠ [] := by
  cases op with
  | createNewFriendship myId friendId message =>
    obtain ⟨rfl, rfl⟩ := Prod.mk.inj (Option.some.inj htransaction)
    cases h with
    | createNewFriendship h =>
      cases h with
      | stored => simp [ServerCall.changed]
  | processFriendshipRequest myId requestId action =>
    obtain ⟨rfl, rfl⟩ := Prod.mk.inj (Option.some.inj htransaction)
    cases h with
    | processFriendshipRequest h =>
      cases h with
      | success => simp [ServerCall.changed]
      | refused hne => simp [ServerCall.changed, hne]
  | revokeUserDevice myId deviceId =>
    obtain ⟨rfl, rfl⟩ := Prod.mk.inj (Option.some.inj htransaction)
    cases h with
    | revokeUserDevice h =>
      cases h with
      | success => simp [ServerCall.changed]
      | refused hne => simp [ServerCall.changed, hne]
  | issue userId ticketHash =>
    obtain ⟨rfl, rfl⟩ := Prod.mk.inj (Option.some.inj htransaction)
    cases h with
    | issue h =>
      cases h with
      | issued => simp [ServerCall.changed]
      | refused => simp [ServerCall.changed]
  | complete ticketHash refreshHash deviceId registration =>
    obtain ⟨rfl, rfl⟩ := Prod.mk.inj (Option.some.inj htransaction)
    cases h with
    | complete h =>
      cases h with
      | verified => simp [ServerCall.changed]
      | registered => simp [ServerCall.changed]
      | refused status hne => simp [ServerCall.changed]
  | createNewOnetimeKey userId deviceId batch =>
    obtain ⟨rfl, rfl⟩ := Prod.mk.inj (Option.some.inj htransaction)
    cases h with
    | createNewOnetimeKey h =>
      cases h with
      | stored now rows _ hrows =>
        have hbatch : batch ≠ [] := by
          rintro rfl
          exact absurd hgrounds.2 (by decide)
        have hne : rows ≠ [] := by
          rintro rfl
          exact hbatch (List.forall₂_nil_right_iff.mp hrows)
        simp [ServerCall.changed, hne]
      | refused => simp [ServerCall.changed]
  | getOneTimeKey myId friendId deviceId =>
    obtain ⟨rfl, rfl⟩ := Prod.mk.inj (Option.some.inj htransaction)
    cases h with
    | getOneTimeKey h =>
      cases h with
      | success => simp [ServerCall.changed]
      | refused status hne => simp [ServerCall.changed]
  | createNewUserByEmail => cases htransaction
  | _ => cases hwrite

/-- The answers that are settled without a change. -/
theorem alreadyDone_of_settled {ans : op.Answer} (hsettled : op.settled ans = true)
    (hchanged : op.changed ans = false) :
    (∃ myId deviceId,
      (⟨op, .ok ans⟩ : ServerEvent) = ⟨.revokeUserDevice myId deviceId, .ok .alreadyRevoked⟩) ∨
      ∃ myId requestId action, (⟨op, .ok ans⟩ : ServerEvent) =
        ⟨.processFriendshipRequest myId requestId action, .ok .alreadyProcessed⟩ := by
  cases op with
  | revokeUserDevice myId deviceId =>
    rcases of_decide_eq_true hsettled with rfl | rfl
    · exact absurd hchanged (by simp [ServerCall.changed])
    · exact Or.inl ⟨myId, deviceId, rfl⟩
  | processFriendshipRequest myId requestId action =>
    rcases of_decide_eq_true hsettled with rfl | rfl
    · exact absurd hchanged (by simp [ServerCall.changed])
    · exact Or.inr ⟨myId, requestId, action, rfl⟩
  | _ => exact absurd (hsettled.symm.trans hchanged) (by decide)

/-- A transaction of the thread with the call of this event has returned its answer, and has written
this. -/
def ServerWorld.Returned (w : ServerWorld) (t : ℕ) (e : ServerEvent) (writes : List Write) : Prop :=
  ∃ call reply ans, e.answer = .ok ans ∧ e.op.transaction = some (call, reply) ∧
    ∃ x ∈ w.clients.log, x.call = (some t, call) ∧ x.outcome = .returned (reply ans) ∧
      x.writes = writes

/-- **What an answer stands for**, in the tables that it comes from. -/
theorem returned_of_answers {parser : JsonParser} {past : List ServerEvent} {ans : op.Answer}
    (hw : Reachable (store D.platform fun _ _ => True) db₀ w.store) (hwrite : op.isWrite = true)
    (hgrounds : op.Grounds parser past) (h : D.Answers t w op (.ok ans)) :
    (op.changed ans = true →
      (∃ writes, w.Returned t ⟨op, .ok ans⟩ writes ∧ writes ≠ []) ∨ w.Registered t ⟨op, .ok ans⟩) ∧
      (op.changed ans = false → w.Returned t ⟨op, .ok ans⟩ []) := by
  have hrecorded : Replied t w op (.ok ans) →
      (op.changed ans = true → ∃ writes, w.Returned t ⟨op, .ok ans⟩ writes ∧ writes ≠ []) ∧
        (op.changed ans = false → w.Returned t ⟨op, .ok ans⟩ []) := by
    rintro (⟨error, herror⟩ | ⟨x, hx, call, reply, a, ha, htransaction, hcall, hreturned⟩)
    · cases herror
    · obtain rfl := Except.ok.inj ha
      have hmem : x.mapCall Prod.snd ∈ w.store.log := List.mem_map_of_mem hx
      obtain ⟨u, -, hends, -⟩ := (serial hw).split_mem hmem
      have hcommitted := hends.returned hreturned
      rw [Event.call_mapCall, hcall] at hcommitted
      have hiff := changed_iff hwrite hgrounds htransaction hcommitted
      have hwrites : w.Returned t ⟨op, .ok ans⟩ x.writes :=
        ⟨call, reply, ans, rfl, htransaction, x, hx, hcall, hreturned, rfl⟩
      refine ⟨fun hchanged => ⟨_, hwrites, hiff.mp hchanged⟩, fun hchanged => ?_⟩
      have hnil : x.writes = [] := by
        by_contra hne
        rw [hiff.mpr hne] at hchanged
        cases hchanged
      exact hnil ▸ hwrites
  cases op with
  | createNewUserByEmail email passwordHash displayName username =>
    obtain ⟨error, herror⟩ | ⟨user, huser, hregistered, hrow⟩ := h
    · cases herror
    · obtain rfl := Except.ok.inj huser
      refine ⟨fun _ => Or.inr ⟨email, passwordHash, displayName, username, user, rfl, hregistered, hrow⟩,
        fun hchanged => ?_⟩
      cases hchanged
  | createNewFriendship | processFriendshipRequest | revokeUserDevice | issue | complete
  | createNewOnetimeKey | getOneTimeKey =>
    obtain ⟨hchanged, hunchanged⟩ := hrecorded (Or.resolve_left h fun hnone => by cases hnone)
    exact ⟨fun hc => Or.inl (hchanged hc), hunchanged⟩
  | _ => cases hwrite

/-- **It is the thread's only one** with the call. -/
theorem ServerWorld.Returned.committed {writes : List Write} (h : w.Returned t e writes)
    (hwrite : e.op.isWrite = true) (hsub : w.clients.log ⊆ w'.clients.log) (hw' : RunOnce w') :
    w'.Committed t e writes := by
  obtain ⟨call, reply, ans, hans, htransaction, x, hx, hcall, hreturned, hwrites⟩ := h
  obtain ⟨before, after, hlog⟩ := List.append_of_mem (hsub hx)
  exact ⟨call, reply, ans, hans, htransaction, before, x, after, hlog, hcall, hreturned, hwrites,
    (hw'.transactions t e.op call reply hwrite htransaction).not_mem hlog hcall⟩

/-! ### Runs -/

/-- What had been done when a call was answered stays done. -/
def Kept (history : List ServerRecord) (w : ServerWorld) : Prop :=
  ∀ z ∈ history, z.world.clients.log ⊆ w.clients.log ∧ z.world.registered ⊆ w.registered ∧
    z.world.accounts.credentials ⊆ w.accounts.credentials

theorem keeps_kept (D : Deployment) : Threads.Keeps (httpServer D) (Grounded D.parser) Kept where
  answer history t w event h z hz := by
    rcases List.mem_append.mp hz with hz | hz
    · exact h z hz
    · rw [List.mem_singleton.mp hz]
      exact ⟨List.Subset.refl _, List.Subset.refl _, List.Subset.refl _⟩
  move history waits w w' h _ hmove z hz := by
    obtain ⟨hlog, hregistered, haccounts⟩ := h z hz
    cases hmove with
    | begin => exact ⟨hlog, hregistered, haccounts⟩
    | store hstep => exact ⟨fun x hx => hstep.log_prefix.subset (hlog hx), hregistered, haccounts⟩
    | register _ _ hcreated =>
      refine ⟨hlog, fun x hx => List.mem_append_left _ (hregistered hx), fun row hrow => ?_⟩
      rw [(Accounts.createNewUserByEmail_eq_ok hcreated).2.2]
      exact List.mem_append_left _ (haccounts hrow)
    | setActive id active => exact ⟨hlog, hregistered, haccounts⟩
    | clock now => exact ⟨hlog, hregistered, haccounts⟩

section Runs

variable (h : Threads.Reachable (httpServer D) (.initial db₀ now₀) c)

include h

theorem kept_of_reachable : Kept c.history c.world :=
  Threads.world_of_reachable obeys_httpServer (keeps_kept D)
    (fun _ hz => absurd hz List.not_mem_nil) h

/-- **What an answer stands for**, in every later state. -/
theorem committed_of_mem (he : e ∈ pastOf t c.history) (hwrite : e.op.isWrite = true)
    {ans : e.op.Answer} (hans : e.answer = .ok ans) :
    (e.op.changed ans = true → c.world.Changed t e) ∧
      (e.op.changed ans = false → c.world.Committed t e []) := by
  obtain ⟨z, hz, rfl, rfl⟩ := mem_pastOf.mp he
  obtain ⟨before, after, hhistory⟩ := List.append_of_mem hz
  have hgrounds := (Threads.allowed_of_reachable obeys_httpServer h hhistory).grounds
  have hanswered := answered_of_reachable h hz
  obtain ⟨hlog, hregistered, haccounts⟩ := kept_of_reachable h z hz
  have hreachable := (accountable_of_history h hhistory).reachable
  have honce := runOnce_of_reachable h
  generalize z.event = event at *
  obtain ⟨op, answer⟩ := event
  dsimp only at ans hans hwrite hgrounds hanswered ⊢
  subst hans
  obtain ⟨hchanged, hunchanged⟩ := returned_of_answers hreachable hwrite hgrounds hanswered
  refine ⟨fun hc => ?_, fun hc => (hunchanged hc).committed hwrite hlog honce⟩
  rcases hchanged hc with ⟨writes, hreturned, hne⟩ |
    ⟨email, hash, name, username, user, he, hmade, hrow⟩
  · exact Or.inl ⟨writes, hreturned.committed hwrite hlog honce, hne⟩
  · exact Or.inr ⟨email, hash, name, username, user, he, hregistered hmade, haccounts hrow⟩

/-- **A request changes the store once** at most. -/
theorem writes_once (t : ℕ) :
    ((pastOf t c.history).filter fun e => e.op.isWrite).length ≤ 1 :=
  Threads.length_filter_pastOf_le (fun _ _ _ hhistory hwrite e he =>
    (Threads.allowed_of_reachable obeys_httpServer h hhistory).once hwrite e he) t

end Runs

end ChatBackend
