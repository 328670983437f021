import ChatBackend.Websocket.Events
import ChatBackend.Websocket.Interest
import ChatBackend.Websocket.Promises

/-!
# The books of a revocation

Beside its sessions a worker keeps three maps with the same keys: the sessions that are closing, the
deadlines of revoked sessions, and the callbacks of those who wait for the end of one. A file
descriptor that is used again is the key of another session, so nothing may be left under it. Several
revocations may be under way, of one device or of several, and one that comes to a session that has a
deadline leaves it there and waits as well.

A scan counts the sessions that it has matched, and has one callback at each of them. As long as one
of them is there, the count is not down to zero, and when the last one goes, for whatever reason, it
is.

## Main definitions

* `WebsocketWorker.Consistent` — the maps have sessions for all their keys
* `WebsocketWorker.Runs` — a run, by its inputs
* `DeadlinesKept`, `PromiseKept`

## Main results

* `revocation_bookkeeping`
-/

namespace ChatBackend

open Function (update update_self update_of_ne)
open WebsocketWorker (RevocationInputs)

variable {parser : JsonParser} {writer : JsonWriter} {licence : Licence}
  {w w' v : WebsocketWorker} {fd : Fd} {scan : ScanId} {userId deviceId : Uuid}

/-! ### Consistency -/

/-- **The maps are consistent**: what is closing, has a deadline or is waited for is a session, and
what has a deadline is closing. -/
structure WebsocketWorker.Consistent (w : WebsocketWorker) : Prop where
  closing : ∀ fd, w.closing fd = true → (w.sessions fd).isSome
  deadlines : ∀ fd, (w.deadlines fd).isSome → (w.sessions fd).isSome
  completions : ∀ fd, w.completions fd ≠ [] → (w.sessions fd).isSome
  deadlines_closing : ∀ fd, (w.deadlines fd).isSome → w.closing fd = true

/-- A session with a deadline is closing. -/
def Entry.Limited (entry : Entry) : Prop := entry.deadline.isSome → entry.closing = true

theorem Move.limited {entry entry' : Entry} {stimulus : Stimulus} {events : List WorkerEvent}
    (h : Move parser entry stimulus events (some entry')) (hlimited : entry.Limited) :
    entry'.Limited := by
  cases h with
  | threw | read | sent | ping | message => exact hlimited
  | readClosing | revoke => exact fun _ => rfl
  | limit _ hclosing => exact fun _ => hclosing

theorem Life.limited {allowed : Entry → Stimulus → Prop} {events : List WorkerEvent} {entry : Entry}
    (h : Life parser allowed events (some entry)) : entry.Limited := by
  generalize hresult : some entry = result at h
  induction h generalizing entry with
  | registered entry' _ hdeadline =>
    obtain rfl := Option.some.inj hresult
    intro hsome
    rw [hdeadline] at hsome
    cases hsome
  | step _ _ hmove ih =>
    rw [← hresult] at hmove
    exact hmove.limited (ih rfl)

/-- Callbacks are left at sessions only. -/
def WebsocketWorker.Attended (w : WebsocketWorker) : Prop :=
  ∀ fd, w.completions fd ≠ [] → (w.sessions fd).isSome

theorem Same.isSome (h : Same w w') (fd : Fd) : (w'.sessions fd).isSome = (w.sessions fd).isSome := by
  have hfd := congrArg Option.isSome (h fd)
  rwa [Option.isSome_map, Option.isSome_map] at hfd

theorem Tends.attended (h : Tends licence w w') (hattended : w.Attended) : w'.Attended := by
  induction h with
  | change hsame hcompletions =>
    intro fd hwaiting
    rw [hcompletions] at hwaiting
    rw [hsame.isSome]
    exact hattended fd hwaiting
  | remove w fd cause =>
    intro other hwaiting
    rw [WebsocketWorker.completions_removeSession] at hwaiting
    rw [WebsocketWorker.sessions_removeSession]
    by_cases hother : other = fd
    · rw [hother, update_self] at hwaiting
      exact absurd rfl hwaiting
    · rw [update_of_ne hother] at hwaiting ⊢
      exact hattended other hwaiting
  | trans _ _ ih ih' => exact ih' (ih hattended)

theorem attended_step (parser : JsonParser) (writer : JsonWriter) (hattended : w.Attended)
    (input : WorkerInput) : (w.step parser writer input).Attended := by
  rcases input.sort with ⟨fd, who, inputBuffer, now, addOk, rfl⟩ |
    ⟨scan, user, device, order, io, rfl⟩ | ⟨hregister, hother⟩
  · intro other hwaiting
    rw [WebsocketWorker.step] at hwaiting ⊢
    rw [(register_promises w fd who inputBuffer now addOk).1] at hwaiting
    have hsome := hattended other hwaiting
    rcases register_cases w fd who inputBuffer now addOk with heq | ⟨hfree, -, added, -, heq, -⟩
    · rwa [heq]
    · rw [heq]
      by_cases hfd : other = fd
      · rw [hfd, update_self]
        rfl
      · rwa [update_of_ne hfd]
  · rw [WebsocketWorker.step]
    rcases runRevocation_eq w scan user device order io with ⟨-, heq⟩ | ⟨-, htends⟩
    · rw [heq]
      exact hattended
    · -- The callbacks of the scan are left at its targets, which are sessions.
      refine htends.attended fun fd hwaiting => ?_
      by_cases htarget : fd ∈ order.filter (w.owned user device)
      · have howned := (List.mem_filter.1 htarget).2
        rw [WebsocketWorker.owned] at howned
        change (w.sessions fd).isSome = true
        cases hsession : w.sessions fd with
        | none =>
          rw [hsession] at howned
          cases howned
        | some session => rfl
      · rw [WebsocketWorker.await] at hwaiting
        simp only [htarget, if_false] at hwaiting
        exact hattended fd hwaiting
  · exact (tends_step parser writer w hregister hother).attended hattended

theorem consistent_of_reaches {condition : WebsocketWorker → WorkerInput → Prop}
    (hw : w.Reaches parser writer condition) : w.Consistent := by
  have hrefines := refines_of_reaches_any hw
  refine ⟨fun fd hclosing => ?_, fun fd hdeadline => ?_, ?_, fun fd hdeadline => ?_⟩
  · by_contra hnone
    rw [(hrefines.tidy fd (Option.not_isSome_iff_eq_none.1 hnone)).1] at hclosing
    cases hclosing
  · by_contra hnone
    rw [(hrefines.tidy fd (Option.not_isSome_iff_eq_none.1 hnone)).2] at hdeadline
    cases hdeadline
  · induction hw with
    | start => exact fun _ hwaiting => absurd rfl hwaiting
    | step hw _ _ ih => exact attended_step parser writer (ih (refines_of_reaches_any hw)) _
  · cases hsession : w.sessions fd with
    | none =>
      rw [(hrefines.tidy fd hsession).2] at hdeadline
      cases hdeadline
    | some session =>
      exact (hrefines.present fd _ (WebsocketWorker.entry_of_session hsession)).limited hdeadline

/-! ### Promises -/

/-- No two sessions have the same id. -/
def WebsocketWorker.DistinctIds (w : WebsocketWorker) : Prop :=
  ∀ fd other session session', w.sessions fd = some session → w.sessions other = some session' →
    session.id = session'.id → fd = other

theorem WebsocketWorker.DistinctIds.keeps (h : w.DistinctIds) (hkeeps : Keeps w w') :
    w'.DistinctIds := by
  intro fd other session session' hsession hsession' hid
  obtain ⟨session₀, hsession₀, hid₀⟩ := hkeeps fd session hsession
  obtain ⟨session₀', hsession₀', hid₀'⟩ := hkeeps other session' hsession'
  have hsame : session₀.id = session₀'.id :=
    (congrArg Identity.id hid₀).symm.trans (hid.trans (congrArg Identity.id hid₀'))
  exact h fd other session₀ session₀' hsession₀ hsession₀' hsame

theorem distinctIds_of_reaches {condition : WebsocketWorker → WorkerInput → Prop}
    (hw : w.Reaches parser writer condition) : w.DistinctIds :=
  fun fd other _ _ hsession hsession' => (refines_of_reaches_any hw).distinct fd other _ _
    (WebsocketWorker.entry_of_session hsession) (WebsocketWorker.entry_of_session hsession')

/-- The id of a session that a scan matches. -/
def WebsocketWorker.matched (w : WebsocketWorker) (userId deviceId : Uuid) (fd : Fd) : Option ℕ :=
  if w.owned userId deviceId fd then (w.sessions fd).map WebSocketSession.id else none

theorem WebsocketWorker.matched_eq_some {id : ℕ} :
    w.matched userId deviceId fd = some id ↔
      w.owned userId deviceId fd = true ∧ ∃ session, w.sessions fd = some session ∧
        session.id = id := by
  rw [matched]
  split
  · next howned => simp [howned]
  · next howned => simp [howned]

/-- **The promise is kept**: it is fulfilled once at most, and it is fulfilled if and only if all
sessions that its scan has matched are gone. -/
def PromiseKept (matched : Fd → Option ℕ) (w : WebsocketWorker) (scan : ScanId) : Prop :=
  w.fulfilled.count scan ≤ 1 ∧
    (scan ∈ w.fulfilled ↔ ∀ fd id, matched fd = some id →
      ∀ other session, w.sessions other = some session → session.id ≠ id)

/-- **What a promise waits for**: some of the sessions that its scan has matched are left. Each has a
callback, and as many are counted; the others are gone, and there are none left when the promise is
fulfilled. -/
structure Awaits (matched : Fd → Option ℕ) (w : WebsocketWorker) (scan : ScanId)
    (left : Finset Fd) : Prop where
  remaining : left.Nonempty → w.remaining scan = left.card
  callbacks : ∀ fd, (w.completions fd).count scan = if fd ∈ left then 1 else 0
  present : ∀ fd ∈ left, ∃ session, w.sessions fd = some session ∧ matched fd = some session.id
  gone : ∀ fd id, matched fd = some id → fd ∉ left →
    ∀ other session, w.sessions other = some session → session.id ≠ id
  known : ∀ fd id, matched fd = some id → ∃ event ∈ w.log, event.id = id
  fulfilled : w.fulfilled.count scan = if left = ∅ then 1 else 0

variable {matched : Fd → Option ℕ} {left : Finset Fd}

theorem Awaits.kept (h : Awaits matched w scan left) : PromiseKept matched w scan := by
  have hfulfilled := h.fulfilled
  rcases left.eq_empty_or_nonempty with rfl | hsome
  · rw [if_pos rfl] at hfulfilled
    refine ⟨hfulfilled.le, iff_of_true ?_ fun fd id hid => h.gone fd id hid (Finset.notMem_empty fd)⟩
    exact List.count_pos_iff.1 (hfulfilled ▸ Nat.one_pos)
  · rw [if_neg hsome.ne_empty] at hfulfilled
    refine ⟨hfulfilled.le.trans (Nat.zero_le 1), iff_of_false (List.count_eq_zero.1 hfulfilled) ?_⟩
    obtain ⟨fd, hfd⟩ := hsome
    obtain ⟨session, hsession, hid⟩ := h.present fd hfd
    exact fun hgone => hgone fd session.id hid fd session hsession rfl

/-- The callbacks of other scans do not fulfil a promise. -/
theorem count_fulfilled_of_notMem {callbacks : List ScanId} (h : scan ∉ callbacks)
    (w : WebsocketWorker) :
    (callbacks.foldl WebsocketWorker.complete w).fulfilled.count scan = w.fulfilled.count scan := by
  induction callbacks generalizing w with
  | nil => rfl
  | cons other callbacks ih =>
    rw [List.mem_cons, not_or] at h
    rw [List.foldl_cons, ih h.2, WebsocketWorker.complete]
    simp only
    split
    · rw [List.count_append, List.count_singleton, beq_eq_false_iff_ne.2 (Ne.symm h.1)]
      rfl
    · rfl

/-- The callback of a scan fulfils its promise if it is the last one. -/
theorem count_fulfilled_of_count {callbacks : List ScanId} (h : callbacks.count scan = 1)
    (w : WebsocketWorker) :
    (callbacks.foldl WebsocketWorker.complete w).fulfilled.count scan =
      w.fulfilled.count scan + if w.remaining scan - 1 = 0 then 1 else 0 := by
  induction callbacks generalizing w with
  | nil => cases h
  | cons other callbacks ih =>
    rw [List.foldl_cons]
    by_cases hother : other = scan
    · subst hother
      rw [List.count_cons_self, Nat.add_eq_right] at h
      rw [count_fulfilled_of_notMem (List.count_eq_zero.1 h), WebsocketWorker.complete]
      simp only
      split
      · rw [List.count_append, List.count_singleton_self]
      · rw [Nat.add_zero]
    · rw [List.count_cons_of_ne hother] at h
      have hremaining : (w.complete other).remaining scan = w.remaining scan :=
        update_of_ne (Ne.symm hother) _ _
      have hfulfilled : (w.complete other).fulfilled.count scan = w.fulfilled.count scan :=
        @count_fulfilled_of_notMem scan [other] (by simpa using Ne.symm hother) w
      rw [ih h, hremaining, hfulfilled]

/-- A session goes, and perhaps it was waited for. -/
theorem Awaits.remove (h : Awaits matched w scan left) (hdistinct : w.DistinctIds) (fd : Fd)
    (cause : Cause) : Awaits matched (w.removeSession fd cause) scan (left.erase fd) := by
  obtain ⟨w₀, hremaining₀, hfulfilled₀, heq⟩ := removeSession_foldl w fd cause
  have hkeeps : Keeps w (w.removeSession fd cause) := .remove w fd cause
  have hown := h.callbacks fd
  refine ⟨fun hsome => ?_, fun other => ?_, fun other hother => ?_, ?_, fun other id hid => ?_, ?_⟩
  · by_cases hfd : fd ∈ left
    · rw [if_pos hfd] at hown
      rw [heq, (foldl_complete_of_count hown w₀).1, hremaining₀, h.remaining ⟨fd, hfd⟩,
        Finset.card_erase_of_mem hfd]
    · rw [if_neg hfd, List.count_eq_zero] at hown
      rw [Finset.erase_eq_of_notMem hfd] at hsome ⊢
      rw [heq, (foldl_complete_of_notMem hown w₀).1, hremaining₀, h.remaining hsome]
  · rw [WebsocketWorker.completions_removeSession]
    by_cases hother : other = fd
    · rw [hother, update_self, if_neg (Finset.notMem_erase fd left), List.count_nil]
    · rw [update_of_ne hother, h.callbacks]
      simp [hother]
  · obtain ⟨hne, hother⟩ := Finset.mem_erase.1 hother
    obtain ⟨session, hsession, hid⟩ := h.present other hother
    refine ⟨session, ?_, hid⟩
    rw [WebsocketWorker.sessions_removeSession, update_of_ne hne, hsession]
  · intro other id hid hgone third session' hsession' hsame
    obtain ⟨session, hsession, hidentity⟩ := hkeeps third session' hsession'
    have hid' : session.id = id := (congrArg Identity.id hidentity).symm.trans hsame
    by_cases hother : other ∈ left
    · -- It was the session that is removed.
      obtain rfl : other = fd := by
        by_contra hne
        exact hgone (Finset.mem_erase.2 ⟨hne, hother⟩)
      obtain ⟨session₀, hsession₀, hmatched⟩ := h.present other hother
      have hids : session.id = session₀.id := by
        rw [hid', Option.some.inj (hid.symm.trans hmatched)]
      obtain rfl := hdistinct third other session session₀ hsession hsession₀ hids
      rw [WebsocketWorker.sessions_removeSession, update_self] at hsession'
      cases hsession'
    · exact h.gone other id hid hother third session hsession hid'
  · obtain ⟨event, hevent, hsame⟩ := h.known other id hid
    rw [WebsocketWorker.log_removeSession]
    exact ⟨event, List.mem_append_left _ hevent, hsame⟩
  · rw [heq]
    by_cases hfd : fd ∈ left
    · rw [if_pos hfd] at hown
      rw [count_fulfilled_of_count hown, hremaining₀, hfulfilled₀, h.fulfilled,
        if_neg (Finset.ne_empty_of_mem hfd), Nat.zero_add, h.remaining ⟨fd, hfd⟩,
        ← Finset.card_erase_of_mem hfd]
      simp only [Finset.card_eq_zero]
    · rw [if_neg hfd, List.count_eq_zero] at hown
      rw [count_fulfilled_of_notMem hown, hfulfilled₀, h.fulfilled,
        Finset.erase_eq_of_notMem hfd]

/-- **A promise goes on waiting** for the sessions that are left. -/
theorem Tends.awaits (h : Tends licence w w') (hdistinct : w.DistinctIds)
    (hawaits : Awaits matched w scan left) : ∃ left', Awaits matched w' scan left' := by
  induction h generalizing left with
  | change hsame hcompletions hremaining hfulfilled events hlog =>
    refine ⟨left, ?_, ?_, fun fd hfd => ?_, fun fd id hid hgone other session' hsession' => ?_,
      fun fd id hid => ?_, ?_⟩
    · rw [hremaining]
      exact hawaits.remaining
    · rw [hcompletions]
      exact hawaits.callbacks
    · obtain ⟨session, hsession, hid⟩ := hawaits.present fd hfd
      have hfd' := hsame fd
      rw [hsession, Option.map_some] at hfd'
      obtain ⟨session', hsession', hidentity⟩ := Option.map_eq_some_iff.1 hfd'
      refine ⟨session', hsession', ?_⟩
      rw [hid, ← WebSocketSession.id_identity, ← hidentity, WebSocketSession.id_identity]
    · obtain ⟨session, hsession, hidentity⟩ := hsame.keeps other session' hsession'
      have hne := hawaits.gone fd id hid hgone other session hsession
      rwa [← WebSocketSession.id_identity, ← hidentity, WebSocketSession.id_identity] at hne
    · obtain ⟨event, hevent, hid'⟩ := hawaits.known fd id hid
      rw [hlog]
      exact ⟨event, List.mem_append_left _ hevent, hid'⟩
    · rw [hfulfilled]
      exact hawaits.fulfilled
  | remove w fd cause => exact ⟨_, hawaits.remove hdistinct fd cause⟩
  | trans h _ ih ih' =>
    obtain ⟨left', hawaits'⟩ := ih hdistinct hawaits
    exact ih' (hdistinct.keeps h.keeps) hawaits'

/-- **The scan itself**: it waits for the sessions that it has matched, or there is none. -/
theorem awaits_runRevocation {condition : WebsocketWorker → WorkerInput → Prop}
    (hw : w.Reaches parser writer condition) (habsent : WebsocketWorker.Absent w scan)
    {order : List Fd} (horder : w.Enumerates order) (io : Fd → RevocationInputs) :
    ∃ left, Awaits (w.matched userId deviceId)
      (w.runRevocation scan userId deviceId order io) scan left := by
  have hcallbacks (fd : Fd) : (w.completions fd).count scan = 0 :=
    List.count_eq_zero_of_not_mem (habsent.1 fd)
  have hfulfilled : w.fulfilled.count scan = 0 := List.count_eq_zero_of_not_mem habsent.2
  have hknown : ∀ fd id, w.matched userId deviceId fd = some id →
      ∃ event ∈ w.log, event.id = id := by
    intro fd id hid
    obtain ⟨-, session, hsession, rfl⟩ := WebsocketWorker.matched_eq_some.1 hid
    have hlife := (refines_of_reaches_any hw).present fd _
      (WebsocketWorker.entry_of_session hsession)
    obtain ⟨event, hevent⟩ := List.exists_mem_of_ne_nil _ hlife.ne_nil
    obtain ⟨hmem, heventId⟩ := mem_history.1 hevent
    exact ⟨event, hmem, heventId⟩
  have htarget {fd : Fd} {id : ℕ} (hid : w.matched userId deviceId fd = some id) :
      fd ∈ order.filter (w.owned userId deviceId) := by
    obtain ⟨howned, session, hsession, -⟩ := WebsocketWorker.matched_eq_some.1 hid
    exact List.mem_filter.2 ⟨(horder.2 fd).2 (by rw [hsession]; rfl), howned⟩
  rcases runRevocation_eq w scan userId deviceId order io with ⟨hnone, heq⟩ | ⟨hsome, htends⟩
  · rw [heq]
    refine ⟨∅, fun hsome => absurd hsome Finset.not_nonempty_empty, hcallbacks, nofun, ?_, hknown, ?_⟩
    · intro fd id hid
      have hmem := htarget hid
      rw [hnone] at hmem
      cases hmem
    · rw [List.count_append, hfulfilled, List.count_singleton_self, if_pos rfl]
  · have hnodup : (order.filter (w.owned userId deviceId)).Nodup := horder.1.filter _
    have hawaits : Awaits (w.matched userId deviceId)
        (w.await scan (order.filter (w.owned userId deviceId))) scan
        (order.filter (w.owned userId deviceId)).toFinset := by
      refine ⟨fun _ => ?_, fun fd => ?_, fun fd hfd => ?_, fun fd id hid hgone => ?_, hknown, ?_⟩
      · rw [List.toFinset_card_of_nodup hnodup]
        exact update_self ..
      · simp only [WebsocketWorker.await, List.mem_toFinset]
        split
        · rw [List.count_append, hcallbacks, Nat.zero_add, List.count_singleton_self]
        · exact hcallbacks fd
      · obtain ⟨hmem, howned⟩ := List.mem_filter.1 (List.mem_toFinset.1 hfd)
        obtain ⟨session, hsession⟩ := Option.isSome_iff_exists.1 ((horder.2 fd).1 hmem)
        exact ⟨session, hsession,
          WebsocketWorker.matched_eq_some.2 ⟨howned, session, hsession, rfl⟩⟩
      · exact absurd (List.mem_toFinset.2 (htarget hid)) hgone
      · rw [if_neg (by rwa [List.toFinset_eq_empty_iff])]
        exact hfulfilled
    have hdistinct : w.DistinctIds := distinctIds_of_reaches hw
    exact htends.awaits hdistinct hawaits

/-- **A step of the worker**, whatever it is, leaves the promise waiting for what is left. -/
theorem Awaits.step {condition : WebsocketWorker → WorkerInput → Prop}
    (hw : w.Reaches parser writer condition) {input : WorkerInput} (hadmits : w.Admits input)
    (hscan : input.scan? ≠ some scan) (h : Awaits matched w scan left) :
    ∃ left', Awaits matched (w.step parser writer input) scan left' := by
  rcases input.sort with ⟨fd, who, inputBuffer, now, addOk, rfl⟩ |
    ⟨other, user, device, order, io, rfl⟩ | ⟨hregister, hother⟩
  · rw [WebsocketWorker.step]
    rcases register_cases w fd who inputBuffer now addOk with
      heq | ⟨hfree, -, added, hid, hsessions, -, hlog, -⟩
    · rw [heq]
      exact ⟨left, h⟩
    · obtain ⟨hcompletions, hremaining, hfulfilled⟩ :=
        register_promises w fd who inputBuffer now addOk
      refine ⟨left, ?_, ?_, fun target htarget => ?_, fun target id hmatched hgone other => ?_,
        fun target id hmatched => ?_, ?_⟩
      · rw [hremaining]
        exact h.remaining
      · rw [hcompletions]
        exact h.callbacks
      · obtain ⟨session, hsession, hmatched⟩ := h.present target htarget
        have hne : target ≠ fd := by
          rintro rfl
          rw [hfree] at hsession
          cases hsession
        exact ⟨session, by rw [hsessions, update_of_ne hne, hsession], hmatched⟩
      · -- The new session has a new id.
        intro session hsession hsame
        rw [hsessions] at hsession
        by_cases hother : other = fd
        · rw [hother, update_self] at hsession
          obtain rfl := Option.some.inj hsession
          obtain ⟨event, hevent, heventId⟩ := h.known target id hmatched
          refine hadmits event hevent ?_
          rw [heventId, ← hsame, ← hid, WebSocketSession.id_identity]
        · rw [update_of_ne hother] at hsession
          exact h.gone target id hmatched hgone other session hsession hsame
      · obtain ⟨event, hevent, heventId⟩ := h.known target id hmatched
        rw [hlog]
        exact ⟨event, List.mem_append_left _ hevent, heventId⟩
      · rw [hfulfilled]
        exact h.fulfilled
  · have hne : scan ≠ other := fun heq => hscan (congrArg some heq.symm)
    rw [WebsocketWorker.step]
    rcases runRevocation_eq w other user device order io with ⟨-, heq⟩ | ⟨-, htends⟩
    · rw [heq]
      refine ⟨left, h.remaining, h.callbacks, h.present, h.gone, h.known, ?_⟩
      rw [List.count_append, List.count_singleton, beq_eq_false_iff_ne.2 (Ne.symm hne)]
      exact h.fulfilled
    · obtain ⟨hremaining, hcompletions⟩ := await_other hne w (order.filter (w.owned user device))
      have hawaits : Awaits matched (w.await other (order.filter (w.owned user device))) scan left :=
        ⟨fun hsome => hremaining.trans (h.remaining hsome),
          fun fd => (hcompletions fd).trans (h.callbacks fd), h.present, h.gone, h.known,
          h.fulfilled⟩
      have hdistinct : w.DistinctIds := distinctIds_of_reaches hw
      exact htends.awaits hdistinct hawaits
  · exact (tends_step parser writer w hregister hother).awaits (distinctIds_of_reaches hw) h

/-! ### Deadlines -/

theorem log_step (parser : JsonParser) (writer : JsonWriter) (w : WebsocketWorker)
    (input : WorkerInput) : ∃ events, (w.step parser writer input).log = w.log ++ events := by
  by_cases hregister : ∀ fd who inputBuffer now addOk,
      input ≠ .register fd who inputBuffer now addOk
  · obtain ⟨⟨events, hlog, -⟩, -⟩ := unregistering_step parser writer w hregister
    exact ⟨events, hlog⟩
  · push Not at hregister
    obtain ⟨fd, who, inputBuffer, now, addOk, rfl⟩ := hregister
    rw [WebsocketWorker.step]
    rcases register_cases w fd who inputBuffer now addOk with heq | ⟨-, -, _, -, -, -, hlog, -⟩
    · rw [heq]
      exact ⟨[], (List.append_nil _).symm⟩
    · exact ⟨_, hlog⟩

theorem keepsDeadlines_step (parser : JsonParser) (writer : JsonWriter) (w : WebsocketWorker)
    {input : WorkerInput}
    (hregister : ∀ fd who inputBuffer now addOk, input ≠ .register fd who inputBuffer now addOk) :
    KeepsDeadlines w (w.step parser writer input) := by
  cases input with
  | register fd who inputBuffer now addOk => exact absurd rfl (hregister fd who inputBuffer now addOk)
  | socket fd flags input output =>
    exact (arms_socketEvent parser w fd flags input output).keepsDeadlines
  | timer now order modOk => exact keepsDeadlines_handleTimer w now order modOk
  | reply request response modOk => exact (arms_runReply w request response modOk).keepsDeadlines
  | push task modOk => exact (arms_runPush w task modOk).keepsDeadlines
  | close fd sessionId deviceId => exact (arms_runClose w fd sessionId deviceId).keepsDeadlines
  | revocation scan userId deviceId order io =>
    rw [WebsocketWorker.step, WebsocketWorker.runRevocation]
    split
    · exact .of_eq rfl rfl
    · have hscan : KeepsDeadlines w
          (w.await scan (order.filter (w.owned userId deviceId))) := .of_eq rfl rfl
      exact hscan.trans (.foldl (fun w fd => (arms_revoke io w fd).keepsDeadlines) _ _)

/-- The session with an id, if there is one, has this file descriptor and this deadline. -/
structure DeadlineStands (id : ℕ) (fd : Fd) (deadline : SteadyTime) (w : WebsocketWorker) : Prop where
  known : ∃ event ∈ w.log, event.id = id
  stands : ∀ other session, w.sessions other = some session → session.id = id →
    other = fd ∧ w.deadlines other = some deadline

theorem DeadlineStands.step {id : ℕ} {deadline : SteadyTime} {input : WorkerInput}
    (h : DeadlineStands id fd deadline w) (hadmits : w.Admits input) :
    DeadlineStands id fd deadline (w.step parser writer input) := by
  obtain ⟨event, hevent, hid⟩ := h.known
  obtain ⟨events, hlog⟩ := log_step parser writer w input
  refine ⟨⟨event, by rw [hlog]; exact List.mem_append_left _ hevent, hid⟩,
    fun other session' hsession' hid' => ?_⟩
  by_cases hregister : ∀ fd who inputBuffer now addOk,
      input ≠ .register fd who inputBuffer now addOk
  · obtain ⟨session, hsession, hidentity⟩ := keeps_step hregister other session' hsession'
    have hsame : session.id = id := (congrArg Identity.id hidentity).symm.trans hid'
    obtain ⟨hfd, hdeadline⟩ := h.stands other session hsession hsame
    refine ⟨hfd, ?_⟩
    rcases (keepsDeadlines_step parser writer w hregister).deadline other deadline hdeadline with
      hkept | hgone
    · exact hkept
    · rw [hsession'] at hgone
      cases hgone
  · push Not at hregister
    obtain ⟨fd', who, inputBuffer, now, addOk, rfl⟩ := hregister
    rw [WebsocketWorker.step] at hsession' ⊢
    have hdeadlines : (w.register fd' who inputBuffer now addOk).deadlines = w.deadlines := by
      rw [WebsocketWorker.register]
      split
      · rfl
      · split <;> rfl
    rw [hdeadlines]
    rcases register_cases w fd' who inputBuffer now addOk with
      heq | ⟨-, -, added, hwho, hsessions, -⟩
    · rw [heq] at hsession'
      exact h.stands other session' hsession' hid'
    · rw [hsessions] at hsession'
      by_cases hother : other = fd'
      · rw [hother, update_self] at hsession'
        obtain rfl := Option.some.inj hsession'
        refine absurd ?_ (hadmits event hevent)
        rw [hid, ← hid', ← hwho, WebSocketSession.id_identity]
      · rw [update_of_ne hother] at hsession'
        exact h.stands other session' hsession' hid'

/-! ### Runs -/

namespace WebsocketWorker

/-- **A run**: each step has an input that it may have. -/
def Runs (parser : JsonParser) (writer : JsonWriter) : WebsocketWorker → List WorkerInput → Prop
  | _, [] => True
  | w, input :: inputs => w.Admits input ∧ Runs parser writer (w.step parser writer input) inputs

theorem runs_append {before after : List WorkerInput} :
    Runs parser writer w (before ++ after) ↔
      Runs parser writer w before ∧ Runs parser writer (w.run parser writer before) after := by
  induction before generalizing w with
  | nil => exact ⟨fun h => ⟨trivial, h⟩, fun h => h.2⟩
  | cons input before ih => rw [List.cons_append, Runs, Runs, ih, and_assoc]; rfl

theorem run_append (before after : List WorkerInput) :
    w.run parser writer (before ++ after) =
      (w.run parser writer before).run parser writer after :=
  List.foldl_append

theorem run_cons (input : WorkerInput) (inputs : List WorkerInput) :
    w.run parser writer (input :: inputs) =
      (w.step parser writer input).run parser writer inputs :=
  rfl

end WebsocketWorker

open WebsocketWorker (Runs runs_append run_append run_cons)

variable {inputs : List WorkerInput}

theorem reaches_run (hw : w.Reaches parser writer fun _ _ => True) (h : Runs parser writer w inputs) :
    (w.run parser writer inputs).Reaches parser writer fun _ _ => True := by
  induction inputs generalizing w with
  | nil => exact hw
  | cons input inputs ih => exact ih (hw.step h.1 trivial) h.2

theorem absent_run (habsent : WebsocketWorker.Absent w scan)
    (hscan : scan ∉ inputs.filterMap WorkerInput.scan?) :
    WebsocketWorker.Absent (w.run parser writer inputs) scan := by
  induction inputs generalizing w with
  | nil => exact habsent
  | cons input inputs ih =>
    have hfirst : input.scan? ≠ some scan := fun heq =>
      hscan (List.mem_filterMap.2 ⟨input, List.mem_cons_self, heq⟩)
    refine ih (absent_step habsent hfirst) fun hmem => hscan ?_
    obtain ⟨other, hother, heq⟩ := List.mem_filterMap.1 hmem
    exact List.mem_filterMap.2 ⟨other, List.mem_cons_of_mem _ hother, heq⟩

theorem Awaits.run (hw : w.Reaches parser writer fun _ _ => True) (h : Runs parser writer w inputs)
    (hscan : scan ∉ inputs.filterMap WorkerInput.scan?) (hawaits : Awaits matched w scan left) :
    ∃ left', Awaits matched (w.run parser writer inputs) scan left' := by
  induction inputs generalizing w left with
  | nil => exact ⟨left, hawaits⟩
  | cons input inputs ih =>
    have hfirst : input.scan? ≠ some scan := fun heq =>
      hscan (List.mem_filterMap.2 ⟨input, List.mem_cons_self, heq⟩)
    obtain ⟨left', hawaits'⟩ := hawaits.step hw h.1 hfirst
    refine ih (hw.step h.1 trivial) h.2 (fun hmem => hscan ?_) hawaits'
    obtain ⟨other, hother, heq⟩ := List.mem_filterMap.1 hmem
    exact List.mem_filterMap.2 ⟨other, List.mem_cons_of_mem _ hother, heq⟩

theorem DeadlineStands.run {id : ℕ} {deadline : SteadyTime} (h : Runs parser writer w inputs)
    (hstands : DeadlineStands id fd deadline w) :
    DeadlineStands id fd deadline (w.run parser writer inputs) := by
  induction inputs generalizing w with
  | nil => exact hstands
  | cons input inputs ih => exact ih h.2 (hstands.step h.1)

/-- **Deadlines are not extended**: a session that had a deadline has the same one, as long as it is
there. -/
def DeadlinesKept (v w : WebsocketWorker) : Prop :=
  ∀ fd session deadline, v.sessions fd = some session → v.deadlines fd = some deadline →
    ∀ other session', w.sessions other = some session' → session'.id = session.id →
      other = fd ∧ w.deadlines other = some deadline

/-- **The books of revocations are kept**, in every state of every run: the maps are consistent, no
deadline is extended, and a promise is fulfilled once, when all sessions that its scan has matched are
gone, and not before that. -/
theorem revocation_bookkeeping (hruns : Runs parser writer .start inputs)
    (hscans : (inputs.filterMap WorkerInput.scan?).Nodup) :
    (WebsocketWorker.start.run parser writer inputs).Consistent ∧
      (∀ before after, inputs = before ++ after →
        DeadlinesKept (WebsocketWorker.start.run parser writer before)
          (WebsocketWorker.start.run parser writer inputs)) ∧
      (∀ before scan userId deviceId order io after,
        inputs = before ++ .revocation scan userId deviceId order io :: after →
          PromiseKept ((WebsocketWorker.start.run parser writer before).matched userId deviceId)
            (WebsocketWorker.start.run parser writer inputs) scan) ∧
      ∀ scan, scan ∉ inputs.filterMap WorkerInput.scan? →
        scan ∉ (WebsocketWorker.start.run parser writer inputs).fulfilled := by
  have hstart : ∀ scan, WebsocketWorker.Absent .start scan :=
    fun scan => ⟨fun _ => List.not_mem_nil, List.not_mem_nil⟩
  refine ⟨consistent_of_reaches (reaches_run .start hruns), ?_, ?_, fun scan hscan => ?_⟩
  · rintro before after rfl fd session deadline hsession hdeadline
    obtain ⟨hbefore, hafter⟩ := runs_append.1 hruns
    have hreaches := reaches_run .start hbefore
    have hstands : DeadlineStands session.id fd deadline
        (WebsocketWorker.start.run parser writer before) := by
      have hlife := (refines_of_reaches_any hreaches).present fd _
        (WebsocketWorker.entry_of_session hsession)
      obtain ⟨event, hevent⟩ := List.exists_mem_of_ne_nil _ hlife.ne_nil
      refine ⟨⟨event, mem_history.1 hevent⟩, fun other session' hsession' hid => ?_⟩
      obtain rfl := distinctIds_of_reaches hreaches other fd session' session hsession' hsession hid
      exact ⟨rfl, hdeadline⟩
    rw [run_append]
    exact (hstands.run hafter).stands
  · rintro before scan userId deviceId order io after rfl
    obtain ⟨hbefore, hadmits, hafter⟩ := runs_append.1 hruns
    have hreaches := reaches_run .start hbefore
    have hcons : (WorkerInput.revocation scan userId deviceId order io :: after).filterMap
        WorkerInput.scan? = scan :: after.filterMap WorkerInput.scan? := rfl
    rw [List.filterMap_append, hcons] at hscans
    have hnodup := List.nodup_append.1 hscans
    have habsent : WebsocketWorker.Absent (WebsocketWorker.start.run parser writer before) scan :=
      absent_run (hstart scan) fun hmem => hnodup.2.2 scan hmem scan List.mem_cons_self rfl
    obtain ⟨left, hawaits⟩ := awaits_runRevocation hreaches habsent hadmits io
    have hstep := hreaches.step hadmits trivial
    obtain ⟨left', hawaits'⟩ := Awaits.run hstep hafter (List.nodup_cons.1 hnodup.2.1).1 hawaits
    rw [run_append, run_cons]
    exact hawaits'.kept
  · exact (absent_run (hstart scan) hscan).2

namespace Sample

/-- The device is revoked, and the socket takes nothing of the Close frame. -/
def revocationInputs (_ : Fd) : RevocationInputs := ⟨seconds 1, true, []⟩
def firstRevocation : WorkerInput := .revocation 1 1 2 [7] revocationInputs
def secondRevocation : WorkerInput := .revocation 2 1 2 [7] revocationInputs

theorem enumerates_revoked :
    (registered.step objectParser noWriter firstRevocation).Enumerates [7] := by
  refine ⟨by decide, fun fd => ?_⟩
  rw [List.mem_singleton]
  constructor
  · rintro rfl
    rfl
  · intro hfd
    obtain ⟨session', hsession'⟩ := Option.isSome_iff_exists.1 hfd
    obtain ⟨session, hsession, -⟩ :=
      keeps_step (by simp [firstRevocation]) fd session' hsession'
    exact List.mem_singleton.1 ((enumerates_registered.2 fd).2 (by rw [hsession]; rfl))

end Sample

/-- Two revocations of one device that are under way at the same time. -/
theorem revocation_bookkeeping_twice :
    (WebsocketWorker.start.run Sample.objectParser Sample.noWriter
        [Sample.registration, Sample.firstRevocation, Sample.secondRevocation]).Consistent ∧
      2 ∉ (WebsocketWorker.start.run Sample.objectParser Sample.noWriter
        [Sample.registration, Sample.firstRevocation, Sample.secondRevocation]).fulfilled := by
  have hbooks := @revocation_bookkeeping Sample.objectParser Sample.noWriter
    [Sample.registration, Sample.firstRevocation, Sample.secondRevocation]
    ⟨fun _ h => absurd h List.not_mem_nil, Sample.enumerates_registered, Sample.enumerates_revoked, trivial⟩
    (by decide)
  refine ⟨hbooks.1, fun hdone => ?_⟩
  have hkept := hbooks.2.2.1 [Sample.registration, Sample.firstRevocation] 2 1 2 [7]
    Sample.revocationInputs [] rfl
  exact hkept.2.1 hdone 7 1 rfl 7 _ rfl rfl

end ChatBackend
