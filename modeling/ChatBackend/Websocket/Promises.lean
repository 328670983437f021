import Mathlib.Data.Finset.Card
import ChatBackend.Websocket.Pool

/-!
# Promises

A scan that finds sessions of a device leaves a callback at each of them and counts them. A session
that is removed runs its callbacks, and the last of a scan sets the value of its promise. Several
scans of one device may be under way at a time, and the sessions may go for any reason.

## Main definitions

* `WebsocketWorker.Clear` — a worker without sessions of a device
* `WebsocketWorker.Waiting` — what a promise waits for

## Main results

* `scan_runRevocation`, `waiting_step`, `clear_step` — the value is set only once the worker is clear,
  and a worker that is clear stays so until a session of the device is registered
-/

namespace ChatBackend

open Function (update update_self update_of_ne)

variable {parser : JsonParser} {writer : JsonWriter} {licence : Licence} {w w' : WebsocketWorker}
  {scan : ScanId} {userId deviceId : Uuid}

/-! ### Callbacks -/

/-- The callbacks of other scans do nothing to a promise. -/
theorem foldl_complete_of_notMem {callbacks : List ScanId} (h : scan ∉ callbacks)
    (w : WebsocketWorker) :
    (callbacks.foldl WebsocketWorker.complete w).remaining scan = w.remaining scan ∧
      (scan ∈ (callbacks.foldl WebsocketWorker.complete w).fulfilled ↔ scan ∈ w.fulfilled) := by
  induction callbacks generalizing w with
  | nil => exact ⟨rfl, Iff.rfl⟩
  | cons other callbacks ih =>
    rw [List.mem_cons, not_or] at h
    obtain ⟨hremaining, hfulfilled⟩ := ih h.2 (w.complete other)
    rw [List.foldl_cons, hremaining, hfulfilled]
    constructor
    · exact update_of_ne h.1 _ _
    · simp only [WebsocketWorker.complete]
      split
      · simp [h.1]
      · rfl

/-- The callback of a scan counts down, and the last one sets the value. -/
theorem foldl_complete_of_count {callbacks : List ScanId} (h : callbacks.count scan = 1)
    (w : WebsocketWorker) :
    (callbacks.foldl WebsocketWorker.complete w).remaining scan = w.remaining scan - 1 ∧
      (scan ∈ (callbacks.foldl WebsocketWorker.complete w).fulfilled ↔
        scan ∈ w.fulfilled ∨ w.remaining scan - 1 = 0) := by
  induction callbacks generalizing w with
  | nil => cases h
  | cons other callbacks ih =>
    rw [List.foldl_cons]
    by_cases hother : other = scan
    · subst hother
      rw [List.count_cons_self, Nat.add_eq_right] at h
      obtain ⟨hremaining, hfulfilled⟩ :=
        foldl_complete_of_notMem (List.count_eq_zero.1 h) (w.complete other)
      rw [hremaining, hfulfilled]
      constructor
      · exact update_self ..
      · simp only [WebsocketWorker.complete]
        split
        · next hzero => simp [hzero]
        · next hzero => simp [hzero]
    · rw [List.count_cons_of_ne hother] at h
      obtain ⟨hremaining, hfulfilled⟩ := ih h (w.complete other)
      have hsame : (w.complete other).remaining scan = w.remaining scan :=
        update_of_ne (Ne.symm hother) _ _
      rw [hremaining, hfulfilled, hsame]
      refine ⟨rfl, or_congr_left ?_⟩
      simp only [WebsocketWorker.complete]
      split
      · simp [Ne.symm hother]
      · rfl

/-- A session that is removed runs its callbacks. -/
theorem removeSession_foldl (w : WebsocketWorker) (fd : Fd) (cause : Cause) :
    ∃ w₀ : WebsocketWorker, w₀.remaining = w.remaining ∧ w₀.fulfilled = w.fulfilled ∧
      w.removeSession fd cause = (w.completions fd).foldl WebsocketWorker.complete w₀ := by
  rw [WebsocketWorker.removeSession]
  cases w.sessions fd with
  | none => refine ⟨_, ?_, ?_, rfl⟩ <;> rfl
  | some session => refine ⟨_, ?_, ?_, rfl⟩ <;> rfl

/-! ### Scans -/

namespace WebsocketWorker

/-- There is no trace of a scan. -/
def Absent (w : WebsocketWorker) (scan : ScanId) : Prop :=
  (∀ fd, scan ∉ w.completions fd) ∧ scan ∉ w.fulfilled

/-- There is no session of a device. -/
def Clear (w : WebsocketWorker) (userId deviceId : Uuid) : Prop :=
  ∀ fd session, w.sessions fd = some session →
    ¬ (session.userId = userId ∧ session.deviceId = deviceId)

/-- **What the promise of a scan waits for**: as many sessions as are counted have a callback, each
one, and all sessions of the device are among them. -/
def Waiting (w : WebsocketWorker) (scan : ScanId) (userId deviceId : Uuid) : Prop :=
  ∃ targets : Finset Fd, targets.Nonempty ∧ w.remaining scan = targets.card ∧
    (∀ fd, (w.completions fd).count scan = if fd ∈ targets then 1 else 0) ∧
    (∀ fd session, w.sessions fd = some session → session.userId = userId →
      session.deviceId = deviceId → fd ∈ targets) ∧
    scan ∉ w.fulfilled

end WebsocketWorker

open WebsocketWorker (Absent Clear Waiting)

theorem WebsocketWorker.Clear.keeps (h : Clear w userId deviceId) (hkeeps : Keeps w w') :
    Clear w' userId deviceId := by
  rintro fd session' hsession' ⟨huser, hdevice⟩
  obtain ⟨session, hsession, hid⟩ := hkeeps fd session' hsession'
  refine h fd session hsession ⟨?_, ?_⟩
  · exact (congrArg Identity.userId hid).symm.trans huser
  · exact (congrArg Identity.deviceId hid).symm.trans hdevice

theorem Tends.absent (h : Tends licence w w') (habsent : Absent w scan) : Absent w' scan := by
  induction h with
  | change _ hcompletions _ hfulfilled =>
    rw [Absent, hcompletions, hfulfilled]
    exact habsent
  | remove w fd cause =>
    obtain ⟨w₀, -, hfulfilled, heq⟩ := removeSession_foldl w fd cause
    constructor
    · intro other hother
      rw [WebsocketWorker.completions_removeSession] at hother
      by_cases hfd : other = fd
      · rw [hfd, update_self] at hother
        cases hother
      · rw [update_of_ne hfd] at hother
        exact habsent.1 other hother
    · rw [heq, (foldl_complete_of_notMem (habsent.1 fd) w₀).2, hfulfilled]
      exact habsent.2
  | trans _ _ ih ih' => exact ih' (ih habsent)

/-- **A promise that waits** goes on waiting, or else there is no session of the device any more. -/
theorem Tends.waiting (h : Tends licence w w') (hwaiting : Waiting w scan userId deviceId) :
    Waiting w' scan userId deviceId ∨ Clear w' userId deviceId := by
  induction h with
  | change hsame hcompletions hremaining hfulfilled =>
    obtain ⟨targets, hnonempty, hcount, hcallbacks, hall, hopen⟩ := hwaiting
    refine .inl ⟨targets, hnonempty, ?_, ?_, ?_, ?_⟩
    · rw [hremaining, hcount]
    · rw [hcompletions]
      exact hcallbacks
    · intro fd session' hsession' huser hdevice
      obtain ⟨session, hsession, hid⟩ := hsame.keeps fd session' hsession'
      refine hall fd session hsession ?_ ?_
      · exact (congrArg Identity.userId hid).symm.trans huser
      · exact (congrArg Identity.deviceId hid).symm.trans hdevice
    · rw [hfulfilled]
      exact hopen
  | remove w fd cause =>
    obtain ⟨targets, hnonempty, hcount, hcallbacks, hall, hopen⟩ := hwaiting
    obtain ⟨w₀, hremaining₀, hfulfilled₀, heq⟩ := removeSession_foldl w fd cause
    have hcount₀ : w₀.remaining scan = targets.card := by rw [hremaining₀, hcount]
    -- The sessions of the device that are left are targets that are left.
    have hall' : ∀ other session, (w.removeSession fd cause).sessions other = some session →
        session.userId = userId → session.deviceId = deviceId → other ∈ targets.erase fd := by
      intro other session hsession huser hdevice
      rw [WebsocketWorker.sessions_removeSession] at hsession
      by_cases hother : other = fd
      · rw [hother, update_self] at hsession
        cases hsession
      · rw [update_of_ne hother] at hsession
        exact Finset.mem_erase.2 ⟨hother, hall other session hsession huser hdevice⟩
    have hcallbacks' : ∀ other, ((w.removeSession fd cause).completions other).count scan =
        if other ∈ targets.erase fd then 1 else 0 := by
      intro other
      rw [WebsocketWorker.completions_removeSession]
      by_cases hother : other = fd
      · rw [hother, update_self, if_neg (Finset.notMem_erase fd targets), List.count_nil]
      · rw [update_of_ne hother, hcallbacks]
        simp [hother]
    have hown := hcallbacks fd
    by_cases hfd : fd ∈ targets
    · rw [if_pos hfd] at hown
      obtain ⟨hremaining, hfulfilled⟩ := foldl_complete_of_count hown w₀
      rw [← heq, hcount₀, ← Finset.card_erase_of_mem hfd] at hremaining
      rw [← heq, hfulfilled₀, hcount₀, ← Finset.card_erase_of_mem hfd, Finset.card_eq_zero]
        at hfulfilled
      rcases (targets.erase fd).eq_empty_or_nonempty with hempty | hmore
      · refine .inr fun other session hsession ⟨huser, hdevice⟩ => ?_
        have hmem := hall' other session hsession huser hdevice
        rw [hempty] at hmem
        cases hmem
      · refine .inl ⟨targets.erase fd, hmore, hremaining, hcallbacks', hall', ?_⟩
        rw [hfulfilled, not_or]
        exact ⟨hopen, hmore.ne_empty⟩
    · rw [if_neg hfd, List.count_eq_zero] at hown
      obtain ⟨hremaining, hfulfilled⟩ := foldl_complete_of_notMem hown w₀
      rw [Finset.erase_eq_of_notMem hfd] at hall' hcallbacks'
      refine .inl ⟨targets, hnonempty, ?_, hcallbacks', hall', ?_⟩
      · rw [heq, hremaining, hcount₀]
      · rw [heq, hfulfilled, hfulfilled₀]
        exact hopen
  | trans _ h' ih ih' =>
    rcases ih hwaiting with hwaiting | hclear
    · exact ih' hwaiting
    · exact .inr (hclear.keeps h'.keeps)

theorem WebsocketWorker.Waiting.not_absent (h : Waiting w scan userId deviceId) : ¬ Absent w scan := by
  obtain ⟨targets, ⟨fd, hfd⟩, -, hcallbacks, -⟩ := h
  intro habsent
  have hone := hcallbacks fd
  rw [if_pos hfd, List.count_eq_zero_of_not_mem (habsent.1 fd)] at hone
  exact absurd hone (by decide)

/-! ### Steps of a worker -/

/-- A registration of a session of the device. -/
def WorkerInput.Admits (input : WorkerInput) (userId deviceId : Uuid) : Prop :=
  ∃ fd who inputBuffer now addOk, input = .register fd who inputBuffer now addOk ∧
    who.userId = userId ∧ who.deviceId = deviceId

/-- The scan that is run. -/
def WorkerInput.scan? : WorkerInput → Option ScanId
  | .revocation scan _ _ _ _ => some scan
  | _ => none

theorem register_promises (w : WebsocketWorker) (fd : Fd) (who : Identity) (inputBuffer : Bytes)
    (now : SteadyTime) (addOk : Bool) :
    (w.register fd who inputBuffer now addOk).completions = w.completions ∧
      (w.register fd who inputBuffer now addOk).remaining = w.remaining ∧
      (w.register fd who inputBuffer now addOk).fulfilled = w.fulfilled := by
  rw [WebsocketWorker.register]
  split
  · exact ⟨rfl, rfl, rfl⟩
  · split
    · exact ⟨rfl, rfl, rfl⟩
    · exact ⟨rfl, rfl, rfl⟩

/-- The sessions of a device after a registration for another one. -/
theorem register_other {fd : Fd} {who : Identity} {inputBuffer : Bytes} {now : SteadyTime}
    {addOk : Bool} (hother : ¬ (who.userId = userId ∧ who.deviceId = deviceId)) {other : Fd}
    {session : WebSocketSession}
    (hsession : (w.register fd who inputBuffer now addOk).sessions other = some session)
    (huser : session.userId = userId) (hdevice : session.deviceId = deviceId) :
    w.sessions other = some session := by
  rcases register_cases w fd who inputBuffer now addOk with heq | ⟨-, -, added, hid, heq, -⟩
  · rwa [heq] at hsession
  · rw [heq] at hsession
    by_cases hfd : other = fd
    · rw [hfd, update_self] at hsession
      obtain rfl := Option.some.inj hsession
      refine absurd ⟨?_, ?_⟩ hother
      · rw [← hid]
        exact huser
      · rw [← hid]
        exact hdevice
    · rwa [update_of_ne hfd] at hsession

/-- **A scan that is run** leaves its callbacks at all the sessions of the device, and sets the value
of its promise only when there is none of them. -/
theorem scan_runRevocation (habsent : Absent w scan) {order : List Fd} (horder : w.Enumerates order)
    (io : Fd → WebsocketWorker.RevocationInputs) :
    Waiting (w.runRevocation scan userId deviceId order io) scan userId deviceId ∨
      Clear (w.runRevocation scan userId deviceId order io) userId deviceId := by
  have hmem {fd : Fd} {session : WebSocketSession} (hsession : w.sessions fd = some session)
      (huser : session.userId = userId) (hdevice : session.deviceId = deviceId) :
      fd ∈ order.filter (w.owned userId deviceId) := by
    refine List.mem_filter.2 ⟨(horder.2 fd).2 (by rw [hsession]; rfl), ?_⟩
    rw [WebsocketWorker.owned, hsession]
    simp [huser, hdevice]
  have hnodup : (order.filter (w.owned userId deviceId)).Nodup := horder.1.filter _
  rcases runRevocation_eq w scan userId deviceId order io with ⟨hnone, heq⟩ | ⟨hsome, htends⟩
  · refine .inr fun fd session hsession ⟨huser, hdevice⟩ => ?_
    rw [heq] at hsession
    have htarget := hmem hsession huser hdevice
    rw [hnone] at htarget
    cases htarget
  · generalize order.filter (w.owned userId deviceId) = targets at hmem hnodup hsome htends
    refine htends.waiting ⟨targets.toFinset, ?_, ?_, ?_, ?_, habsent.2⟩
    · rwa [List.toFinset_nonempty_iff]
    · rw [List.toFinset_card_of_nodup hnodup]
      exact update_self ..
    · intro fd
      simp only [WebsocketWorker.await, List.mem_toFinset]
      split
      · rw [List.count_append, List.count_eq_zero_of_not_mem (habsent.1 fd), Nat.zero_add,
          List.count_singleton_self]
      · exact List.count_eq_zero_of_not_mem (habsent.1 fd)
    · intro fd session hsession huser hdevice
      exact List.mem_toFinset.2 (hmem hsession huser hdevice)

/-- A scan leaves the promises of the others alone. -/
theorem await_other {other : ScanId} (hother : scan ≠ other) (w : WebsocketWorker)
    (targets : List Fd) :
    (w.await other targets).remaining scan = w.remaining scan ∧
      ∀ fd, ((w.await other targets).completions fd).count scan = (w.completions fd).count scan := by
  refine ⟨update_of_ne hother _ _, fun fd => ?_⟩
  simp only [WebsocketWorker.await]
  split
  · rw [List.count_append, List.count_singleton, beq_eq_false_iff_ne.2 (Ne.symm hother)]
    rfl
  · rfl

/-- A step of a worker, as far as promises and sessions are concerned: a registration, a scan, or
else. -/
theorem WorkerInput.sort (input : WorkerInput) :
    (∃ fd who inputBuffer now addOk, input = .register fd who inputBuffer now addOk) ∨
    (∃ scan userId deviceId order io, input = .revocation scan userId deviceId order io) ∨
    ((∀ fd who inputBuffer now addOk, input ≠ .register fd who inputBuffer now addOk) ∧
      ∀ scan userId deviceId order io, input ≠ .revocation scan userId deviceId order io) := by
  cases input with
  | register fd who inputBuffer now addOk => exact .inl ⟨fd, who, inputBuffer, now, addOk, rfl⟩
  | revocation scan userId deviceId order io =>
    exact .inr (.inl ⟨scan, userId, deviceId, order, io, rfl⟩)
  | _ => exact .inr (.inr ⟨nofun, nofun⟩)

theorem absent_step {input : WorkerInput} (habsent : Absent w scan) (hscan : input.scan? ≠ some scan) :
    Absent (w.step parser writer input) scan := by
  rcases input.sort with ⟨fd, who, inputBuffer, now, addOk, rfl⟩ |
    ⟨other, user, device, order, io, rfl⟩ | ⟨hregister, hother⟩
  · obtain ⟨hcompletions, -, hfulfilled⟩ := register_promises w fd who inputBuffer now addOk
    rw [WebsocketWorker.step, Absent, hcompletions, hfulfilled]
    exact habsent
  · have hne : scan ≠ other := fun heq => hscan (congrArg some heq.symm)
    rw [WebsocketWorker.step]
    rcases runRevocation_eq w other user device order io with ⟨-, heq⟩ | ⟨-, htends⟩
    · rw [heq]
      exact ⟨habsent.1, by simpa [hne] using habsent.2⟩
    · refine htends.absent ⟨fun fd => ?_, habsent.2⟩
      rw [← List.count_eq_zero, (await_other hne w _).2, List.count_eq_zero]
      exact habsent.1 fd
  · exact (tends_step parser writer w hregister hother).absent habsent

theorem clear_step {input : WorkerInput} (hclear : Clear w userId deviceId)
    (hadmits : ¬ input.Admits userId deviceId) :
    Clear (w.step parser writer input) userId deviceId := by
  by_cases hregister : ∀ fd who inputBuffer now addOk,
      input ≠ .register fd who inputBuffer now addOk
  · exact hclear.keeps (keeps_step hregister)
  · push Not at hregister
    obtain ⟨fd, who, inputBuffer, now, addOk, rfl⟩ := hregister
    rintro other session hsession ⟨huser, hdevice⟩
    have hother : ¬ (who.userId = userId ∧ who.deviceId = deviceId) :=
      fun ⟨hu, hd⟩ => hadmits ⟨fd, who, inputBuffer, now, addOk, rfl, hu, hd⟩
    exact hclear other session (register_other hother hsession huser hdevice) ⟨huser, hdevice⟩

theorem waiting_step {input : WorkerInput} (hwaiting : Waiting w scan userId deviceId)
    (hscan : input.scan? ≠ some scan) (hadmits : ¬ input.Admits userId deviceId) :
    Waiting (w.step parser writer input) scan userId deviceId ∨
      Clear (w.step parser writer input) userId deviceId := by
  rcases input.sort with ⟨fd, who, inputBuffer, now, addOk, rfl⟩ |
    ⟨other, user, device, order, io, rfl⟩ | ⟨hregister, hother⟩
  · obtain ⟨targets, hnonempty, hcount, hcallbacks, hall, hopen⟩ := hwaiting
    obtain ⟨hcompletions, hremaining, hfulfilled⟩ :=
      register_promises w fd who inputBuffer now addOk
    have hother : ¬ (who.userId = userId ∧ who.deviceId = deviceId) :=
      fun ⟨hu, hd⟩ => hadmits ⟨fd, who, inputBuffer, now, addOk, rfl, hu, hd⟩
    refine .inl ⟨targets, hnonempty, ?_, ?_, ?_, ?_⟩
    · rw [WebsocketWorker.step, hremaining, hcount]
    · rw [WebsocketWorker.step, hcompletions]
      exact hcallbacks
    · intro fd' session hsession huser hdevice
      exact hall fd' session (register_other hother hsession huser hdevice) huser hdevice
    · rw [WebsocketWorker.step, hfulfilled]
      exact hopen
  · have hne : scan ≠ other := fun heq => hscan (congrArg some heq.symm)
    obtain ⟨targets, hnonempty, hcount, hcallbacks, hall, hopen⟩ := hwaiting
    rw [WebsocketWorker.step]
    rcases runRevocation_eq w other user device order io with ⟨-, heq⟩ | ⟨-, htends⟩
    · rw [heq]
      exact .inl ⟨targets, hnonempty, hcount, hcallbacks, hall, by simpa [hne] using hopen⟩
    · obtain ⟨hremaining, hcompletions⟩ :=
        await_other hne w (order.filter (w.owned user device))
      refine htends.waiting ⟨targets, hnonempty, ?_, ?_, hall, hopen⟩
      · rw [hremaining, hcount]
      · intro fd
        rw [hcompletions, hcallbacks]
  · exact (tends_step parser writer w hregister hother).waiting hwaiting

end ChatBackend
