import ChatBackend.Http.Exchange
import ChatBackend.Http.HttpSession
import ChatBackend.Websocket.Worker

/-!
# What has arrived behind an upgrade

A client may send its first frames right behind the request to upgrade. What `recv` has brought of
them together with the end of the request is in the input buffer of the connection, and the connection
is handed over to a worker as it is, so that nothing is lost.

The worker looks for frames when `recv` has brought something, and only then. So it leaves no frame
in a buffer where there was none, but it does not look at what a connection brings with it: a frame
there waits until the peer sends something else.

## Main definitions

* `HttpReading.handOver` — the upgrade hand-off
* `FrameAtFront`, `WebsocketWorker.Drained` — a frame waits in a buffer; none does
* `Drains` — what the operations of a worker do to the input buffers
* `WebsocketWorker.StaysDrained`

## Main results

* `drained_step` — a step leaves no frame that it has not been given
* `upgrade_leftovers_iff`
-/

namespace ChatBackend

open Function (update update_self update_of_ne)
open WebsocketWorker (ReadableInputs WritableInputs RevocationInputs)

variable {parser : JsonParser} {writer : JsonWriter} {w w' w'' : WebsocketWorker} {fd : Fd}

/-! ### The hand-off -/

/-- `PendingWebsocket`, with what is in the input buffer of its connection. -/
structure PendingWebsocket where
  inputBuffer : Bytes
  request : HttpRequest

/-- What the loop of `HandleHttpSession` returns when it ends, if it is a connection to upgrade;
`order` is the order in which the headers are gone through. -/
def HttpReading.handOver (reading : HttpReading) (order : List Bytes) : Option PendingWebsocket :=
  match reading.parser.takeRequest with
  | none => none
  | some (request, _) =>
    if websocketUpgrade request order then some ⟨reading.inputBuffer, request⟩ else none

/-- `acceptingSessions` makes a session of the connection. -/
def PendingWebsocket.accept (pending : PendingWebsocket) (fd : Fd) (who : Identity)
    (now : SteadyTime) : WorkerInput :=
  .register fd who pending.inputBuffer now true

theorem HttpReading.foldl_read {reading : HttpReading} (h : reading.status ≠ .needMoreData)
    (chunks : List Bytes) : chunks.foldl HttpReading.read reading = reading := by
  induction chunks with
  | nil => rfl
  | cons chunk chunks ih => rw [List.foldl_cons, HttpReading.read, if_neg h, ih]

/-- **The hand-off of an upgrade**: the request is complete with one of the chunks, and what this one
has brought behind the request is in the buffer. -/
theorem handOver_of_message {message : HttpMessage} (h : message.WellFormed) {order : List Bytes}
    (hupgrade : websocketUpgrade message.request order = true) {behind : Bytes}
    {first after : List Bytes} {chunk : Bytes}
    (hchunks : (first ++ chunk :: after).flatten = message.bytes ++ behind)
    (hshort : first.flatten.length < message.bytes.length)
    (hle : message.bytes.length ≤ (first ++ [chunk]).flatten.length) :
    ∃ inputBuffer, message.bytes ++ inputBuffer = (first ++ [chunk]).flatten ∧
      (receive (first ++ chunk :: after)).handOver order = some ⟨inputBuffer, message.request⟩ := by
  have hsplit : first ++ chunk :: after = (first ++ [chunk]) ++ after := by simp
  have hpart : (first ++ [chunk]).flatten <+: message.bytes ++ behind := by
    rw [← hchunks, hsplit]
    exact ⟨after.flatten, List.flatten_append.symm⟩
  obtain ⟨hparser, hconsumed⟩ := h.done hpart hle
  have hstatus : (receive (first ++ [chunk])).status = .complete := by
    rw [(h.follows hpart).status, hparser]
    rfl
  have hrest : receive (first ++ chunk :: after) = receive (first ++ [chunk]) := by
    rw [hsplit, receive, List.foldl_append, ← receive,
      HttpReading.foldl_read (by rw [hstatus]; decide)]
  refine ⟨_, h.leftover hpart hshort hle, ?_⟩
  rw [hrest, HttpReading.handOver, hparser]
  simp only [HttpParse.takeRequest, if_true, hupgrade]

/-! ### Frames that wait -/

/-- **A frame waits**: there is a complete valid frame at the front of a buffer. -/
def FrameAtFront (buffer : Bytes) : Prop :=
  ∃ frame key rest, Frame.Acceptable frame ∧ buffer = mask (frameEncoder frame) key ++ rest

theorem frameAtFront_iff {buffer : Bytes} :
    FrameAtFront buffer ↔ ∃ frame size, framing.scan buffer = .ok (frame, size) := by
  constructor
  · rintro ⟨frame, key, rest, hframe, heq⟩
    exact ⟨frame, _, parseFront_eq_ok_iff.2 ⟨hframe, rfl, key, rest, heq⟩⟩
  · rintro ⟨frame, size, hscan⟩
    obtain ⟨hframe, -, key, rest, heq⟩ := parseFront_eq_ok_iff.1 hscan
    exact ⟨frame, key, rest, hframe, heq⟩

/-- What `FrameParse` leaves does not start with a frame. -/
theorem not_frameAtFront_rest (buffer : Bytes) :
    ¬ FrameAtFront (buffer.drop (framing.parse buffer).taken) := by
  intro h
  obtain ⟨frame, size, hscan⟩ := frameAtFront_iff.1 h
  rw [Streaming.Framing.scan_rest] at hscan
  cases hscan

/-- **No frame waits** in the buffer of a session. -/
def WebsocketWorker.Drained (w : WebsocketWorker) : Prop :=
  ∀ fd session, w.sessions fd = some session → ¬ FrameAtFront session.connection.inputBuffer

/-- **A registration brings no frame with it.** -/
def LeavesNoFrame (w : WebsocketWorker) : WorkerInput → Prop
  | .register fd _ inputBuffer _ addOk =>
    w.sessions fd = none → addOk = true → ¬ FrameAtFront inputBuffer
  | _ => True

/-- **What is in an input buffer was there before, or is not a frame.** -/
def Drains (w w' : WebsocketWorker) : Prop :=
  ∀ fd session', w'.sessions fd = some session' → ¬ FrameAtFront session'.connection.inputBuffer ∨
    ∃ session, w.sessions fd = some session ∧
      session'.connection.inputBuffer = session.connection.inputBuffer

theorem Drains.drained (h : Drains w w') (hdrained : w.Drained) : w'.Drained := by
  intro fd session' hsession'
  rcases h fd session' hsession' with hnone | ⟨session, hsession, heq⟩
  · exact hnone
  · rw [heq]
    exact hdrained fd session hsession

namespace Drains

theorem of_eq (hsessions : w'.sessions = w.sessions) : Drains w w' := by
  intro fd session' hsession'
  rw [hsessions] at hsession'
  exact .inr ⟨session', hsession', rfl⟩

theorem refl (w : WebsocketWorker) : Drains w w := of_eq rfl

theorem trans (h : Drains w w') (h' : Drains w' w'') : Drains w w'' := by
  intro fd session'' hsession''
  rcases h' fd session'' hsession'' with hnone | ⟨session', hsession', heq⟩
  · exact .inl hnone
  · rw [heq]
    exact h fd session' hsession'

/-- One session is in another state. -/
theorem update {session : WebSocketSession} (hsession : w.sessions fd = some session)
    {session' : WebSocketSession} (hsessions : w'.sessions = update w.sessions fd (some session'))
    (hbuffer : ¬ FrameAtFront session'.connection.inputBuffer ∨
      session'.connection.inputBuffer = session.connection.inputBuffer) : Drains w w' := by
  intro other session'' hsession''
  rw [hsessions] at hsession''
  by_cases hother : other = fd
  · subst hother
    rw [update_self] at hsession''
    obtain rfl := Option.some.inj hsession''
    exact hbuffer.imp_right fun heq => ⟨session, hsession, heq⟩
  · rw [update_of_ne hother] at hsession''
    exact .inr ⟨session'', hsession'', rfl⟩

theorem remove (w : WebsocketWorker) (fd : Fd) (cause : Cause) :
    Drains w (w.removeSession fd cause) := by
  intro other session' hsession'
  rw [WebsocketWorker.sessions_removeSession] at hsession'
  by_cases hother : other = fd
  · rw [hother, update_self] at hsession'
    cases hsession'
  · rw [update_of_ne hother] at hsession'
    exact .inr ⟨session', hsession', rfl⟩

theorem setWriteInterest (w : WebsocketWorker) (fd : Fd) (enabled modOk : Bool) :
    Drains w (w.setWriteInterest fd enabled modOk) := by
  rw [WebsocketWorker.setWriteInterest]
  split
  · exact refl w
  · split
    · exact of_eq rfl
    · exact remove w fd _

theorem foldl {ι : Type} {f : WebsocketWorker → ι → WebsocketWorker}
    (hf : ∀ w i, Drains w (f w i)) (items : List ι) (w : WebsocketWorker) :
    Drains w (items.foldl f w) := by
  induction items generalizing w with
  | nil => exact refl w
  | cons i items ih => exact (hf w i).trans (ih (f w i))

end Drains

/-! ### Reading -/

theorem inputBuffer_handleFrames (now : SteadyTime) (progress : Progress) (frames : List Frame) :
    (handleFrames now progress frames).1.session.connection.inputBuffer =
      progress.session.connection.inputBuffer := by
  induction frames generalizing progress with
  | nil => rfl
  | cons frame frames ih =>
    rw [handleFrames, handleFrame_eq]
    cases frame.stops with
    | none => exact (ih _).trans (inputBuffer_applyTo frame now progress.session)
    | some status => exact inputBuffer_applyTo frame now progress.session

/-- **Reading leaves no frame**, unless there is nothing to read: whenever `recv` has brought
something, the whole buffer is parsed. -/
theorem inputBuffer_readLoop (progress : Progress) (recvs : List Recv) :
    ¬ FrameAtFront (readLoop progress recvs).1.session.connection.inputBuffer ∨
      (readLoop progress recvs).1.session.connection.inputBuffer =
        progress.session.connection.inputBuffer := by
  induction recvs generalizing progress with
  | nil =>
    rw [readLoop]
    split
    · exact .inr rfl
    · exact .inr rfl
  | cons outcome recvs ih =>
    cases outcome with
    | interrupted => exact ih progress
    | closed | failed => exact .inr rfl
    | again =>
      rw [readLoop]
      split
      · exact .inr rfl
      · exact .inr rfl
    | data chunk now pongAt =>
      refine .inl ?_
      rw [readLoop]
      generalize (progress.session.receive chunk.bytes).recordActivity now = session
      have hparsed : ¬ FrameAtFront (session.consume
          (frameParse session.connection.inputBuffer).consumed).connection.inputBuffer := by
        rw [WebSocketSession.consume, Connection.consumeInput_inputBuffer, consumed_frameParse]
        exact not_frameAtFront_rest _
      generalize session.consume (frameParse session.connection.inputBuffer).consumed = session'
        at hparsed
      split
      · exact hparsed
      · generalize hprogress : ({ progress with session := session' } : Progress) = progress'
        have hframes := inputBuffer_handleFrames pongAt progress'
          (frameParse session.connection.inputBuffer).frames
        rw [show progress'.session = session' by rw [← hprogress]] at hframes
        split
        · next heq =>
          rw [heq] at hframes
          rcases ih _ with hnone | hsame
          · exact hnone
          · rw [hsame, hframes]
            exact hparsed
        · next heq =>
          rw [heq] at hframes
          rw [hframes]
          exact hparsed

theorem inputBuffer_handleReadable (session : WebSocketSession) (recvs : List Recv) :
    ¬ FrameAtFront (handleReadable session recvs).session.connection.inputBuffer ∨
      (handleReadable session recvs).session.connection.inputBuffer =
        session.connection.inputBuffer :=
  inputBuffer_readLoop (.start session) recvs

/-! ### The handlers -/

theorem Connection.inputBuffer_flush {connection connection' : Connection} {sends : List Send}
    {flushed : Flushed} (h : connection.flush sends = (connection', flushed)) :
    connection'.inputBuffer = connection.inputBuffer := by
  rw [flush] at h
  split at h
  · rw [← (Prod.mk.inj h).1]
  · induction sends with
    | nil => rw [← (Prod.mk.inj h).1]
    | cons send sends ih =>
      cases send with
      | interrupted => exact ih h
      | accepted | failed | again => rw [← (Prod.mk.inj h).1]

theorem drains_handleWritable (w : WebsocketWorker) (fd : Fd) (io : WritableInputs) :
    Drains w (w.handleWritable fd io) := by
  rw [WebsocketWorker.handleWritable]
  rcases hsession : w.sessions fd with _ | session
  · exact .refl w
  · simp only
    split
    · next connection bytes hflush =>
      have hwrite : Drains w ((w.setSession fd { session with connection := connection }).record
          [.sent session.id bytes]) :=
        .update hsession rfl (.inr (Connection.inputBuffer_flush hflush))
      split
      · exact hwrite
      · split
        · exact hwrite.trans (.remove _ fd _)
        · exact hwrite.trans (.setWriteInterest _ fd false io.modOk)
    · exact .refl w
    · exact .remove w fd _

theorem drains_takeVerdict (w : WebsocketWorker) (fd : Fd) (session : WebSocketSession)
    (result : WebSocketHandleResult) : Drains w (w.takeVerdict fd session result) := by
  rw [WebsocketWorker.takeVerdict]
  split
  · exact .refl w
  · exact .refl w
  · split
    · exact .of_eq rfl
    · exact .remove w fd _
  · exact .remove w fd _
  · exact .remove w fd _

/-- **A readable event**, also one whose dispatch loop throws. -/
theorem drains_handleReadable (parser : JsonParser) (w : WebsocketWorker) (fd : Fd)
    (io : ReadableInputs) : Drains w (w.handleReadable parser fd io).1 := by
  rw [WebsocketWorker.handleReadable]
  split
  · exact .refl w
  · rcases hsession : w.sessions fd with _ | session
    · exact .refl w
    · simp only [WebsocketWorker.handleBatch]
      have hbuffer := inputBuffer_handleReadable session io.recvs
      generalize ChatBackend.handleReadable session io.recvs = progress at hbuffer ⊢
      have hread : Drains w ((w.setSession fd progress.session).record
          (WebsocketWorker.answers progress.session.identity progress.handled)) :=
        .update hsession rfl hbuffer
      generalize (w.setSession fd progress.session).record
        (WebsocketWorker.answers progress.session.identity progress.handled) = w₁ at hread ⊢
      have hasked : Drains w (if progress.result.outputQueued = true then
          w₁.setWriteInterest fd true io.modOk else w₁) := by
        split
        · exact hread.trans (.setWriteInterest w₁ fd true io.modOk)
        · exact hread
      generalize (if progress.result.outputQueued = true then
        w₁.setWriteInterest fd true io.modOk else w₁) = w₂ at hasked ⊢
      split
      · exact hasked
      · have hrecord (events : List WorkerEvent) : Drains w (w₂.record events) :=
          hasked.trans (.of_eq rfl)
        split
        · exact hrecord _
        · exact (hrecord _).trans (drains_takeVerdict _ fd _ _)

theorem drains_finishEvent (w : WebsocketWorker) (fd : Fd) (flags : WebsocketWorker.Flags)
    (output : WritableInputs) : Drains w (w.finishEvent fd flags output) := by
  rw [WebsocketWorker.finishEvent]
  split
  · exact .refl w
  · have hwritable : Drains w (if flags.writable = true then w.handleWritable fd output else w) := by
      split
      · exact drains_handleWritable w fd output
      · exact .refl w
    generalize (if flags.writable = true then w.handleWritable fd output else w) = w₁
      at hwritable ⊢
    simp only
    split
    · exact hwritable
    · split
      · exact hwritable.trans (.remove w₁ fd _)
      · exact hwritable

theorem drains_socketEvent (parser : JsonParser) (w : WebsocketWorker) (fd : Fd)
    (flags : WebsocketWorker.Flags) (input : ReadableInputs) (output : WritableInputs) :
    Drains w (w.socketEvent parser fd flags input output) := by
  rw [WebsocketWorker.socketEvent]
  split
  · exact .remove w fd _
  · split
    · have hread := drains_handleReadable parser w fd input
      split
      · next hthrew =>
        rw [hthrew] at hread
        exact hread
      · next hthrew =>
        rw [hthrew] at hread
        exact hread.trans (drains_finishEvent _ fd flags output)
    · exact drains_finishEvent w fd flags output

theorem drains_sendPing (now : SteadyTime) (w : WebsocketWorker) (fd : Fd) :
    Drains w (w.sendPing now fd) := by
  rw [WebsocketWorker.sendPing]
  split
  · exact .refl w
  · next session hsession => exact .update hsession rfl (.inr rfl)

theorem drains_handleTimer (w : WebsocketWorker) (now : SteadyTime) (order : List Fd)
    (modOk : Fd → Bool) : Drains w (w.handleTimer now order modOk) := by
  rw [WebsocketWorker.handleTimer]
  have hping := Drains.foldl (drains_sendPing now) (w.writableFds now order) w
  have hexpire (w₁ : WebsocketWorker) := Drains.foldl
    (fun w expired => Drains.remove w expired.1 expired.2) (w.expiredFds now order) w₁
  exact (hping.trans (hexpire _)).trans
    (.foldl (fun w fd => Drains.setWriteInterest w fd true (modOk fd)) _ _)

theorem drains_deliver {session : WebSocketSession} (hsession : w.sessions fd = some session)
    (who : Writer) (message : Json) (modOk : Bool) :
    Drains w (w.deliver writer fd session who message modOk) := by
  rw [WebsocketWorker.deliver]
  split
  · exact .refl w
  · next text _ =>
    have hwrite : Drains w (w.append fd session who (textFrame text)) :=
      .update hsession rfl (.inr rfl)
    exact hwrite.trans (.setWriteInterest _ fd true modOk)

theorem drains_runReply (w : WebsocketWorker) (request : Request) (response : Json)
    (modOk : Bool) : Drains w (w.runReply writer request response modOk) := by
  rw [WebsocketWorker.runReply]
  split
  · exact .refl w
  · split
    · split
      · exact .refl w
      · exact .of_eq rfl
    · split
      · exact .refl w
      · next session hsession =>
        split
        · exact .refl w
        · exact drains_deliver hsession _ response modOk

theorem drains_runPush (w : WebsocketWorker) (task : PushTask) (modOk : Bool) :
    Drains w (w.runPush writer task modOk) := by
  rw [WebsocketWorker.runPush]
  split
  · exact .refl w
  · next session hsession =>
    split
    · exact .refl w
    · split
      · exact .refl w
      · exact drains_deliver hsession _ task.message modOk

theorem drains_runClose (w : WebsocketWorker) (fd : Fd) (sessionId : ℕ) (deviceId : Uuid) :
    Drains w (w.runClose fd sessionId deviceId) := by
  rw [WebsocketWorker.runClose]
  split
  · exact .refl w
  · split
    · exact .refl w
    · split
      · exact .refl w
      · exact .remove w fd _

theorem drains_revoke (io : Fd → RevocationInputs) (w : WebsocketWorker) (fd : Fd) :
    Drains w (w.revoke io fd) := by
  rw [WebsocketWorker.revoke]
  split
  · exact .refl w
  · next session hsession =>
    split
    · exact .refl w
    · have hrest (w₁ : WebsocketWorker) (h : Drains w w₁) (sends : WritableInputs) :
          Drains w ((w₁.setWriteInterest fd true (io fd).modOk).handleWritable fd sends) :=
        (h.trans (.setWriteInterest w₁ fd true (io fd).modOk)).trans
          (drains_handleWritable _ fd sends)
      simp only
      split
      · exact hrest (w.setDeadline fd _) (.of_eq rfl) _
      · exact hrest (((w.setDeadline fd _).markClosing fd session).append fd session _ _)
          (.update hsession rfl (.inr rfl)) _

/-! ### Steps and runs -/

/-- **Whatever a step does to a buffer**, no frame is left there that has come with a `recv`. -/
theorem drains_step (parser : JsonParser) (writer : JsonWriter) (w : WebsocketWorker)
    {input : WorkerInput}
    (h : ∀ fd who inputBuffer now addOk, input ≠ .register fd who inputBuffer now addOk) :
    Drains w (w.step parser writer input) := by
  cases input with
  | register fd who inputBuffer now addOk => exact absurd rfl (h fd who inputBuffer now addOk)
  | socket fd flags input output => exact drains_socketEvent parser w fd flags input output
  | timer now order modOk => exact drains_handleTimer w now order modOk
  | reply request response modOk => exact drains_runReply w request response modOk
  | push task modOk => exact drains_runPush w task modOk
  | close fd sessionId deviceId => exact drains_runClose w fd sessionId deviceId
  | revocation scan userId deviceId order io =>
    rw [WebsocketWorker.step, WebsocketWorker.runRevocation]
    split
    · exact .of_eq rfl
    · exact Drains.trans (.of_eq rfl) (.foldl (drains_revoke io) _ _)

/-- A registration that takes effect. -/
theorem sessions_registration (hfree : w.sessions fd = none) (who : Identity) (inputBuffer : Bytes)
    (now : SteadyTime) :
    (w.step parser writer (.register fd who inputBuffer now true)).sessions =
      update w.sessions fd
        (some ⟨who.id, who.userId, who.deviceId, ⟨inputBuffer, []⟩, now, 0, false, false⟩) := by
  rw [WebsocketWorker.step, WebsocketWorker.register, hfree]
  rfl

theorem drained_step (hdrained : w.Drained) {input : WorkerInput} (h : LeavesNoFrame w input) :
    (w.step parser writer input).Drained := by
  by_cases hregister : ∀ fd who inputBuffer now addOk,
      input ≠ .register fd who inputBuffer now addOk
  · exact (drains_step parser writer w hregister).drained hdrained
  · push Not at hregister
    obtain ⟨fd, who, inputBuffer, now, addOk, rfl⟩ := hregister
    rcases hfree : w.sessions fd with _ | session
    · cases addOk with
      | false =>
        rw [WebsocketWorker.step, WebsocketWorker.register, hfree]
        exact hdrained
      | true =>
        intro other session hsession
        rw [sessions_registration hfree] at hsession
        by_cases hother : other = fd
        · rw [hother, update_self] at hsession
          obtain rfl := Option.some.inj hsession
          exact h hfree rfl
        · rw [update_of_ne hother] at hsession
          exact hdrained other session hsession
    · rw [WebsocketWorker.step, WebsocketWorker.register, hfree]
      exact hdrained

theorem drained_of_reaches (hw : w.Reaches parser writer LeavesNoFrame) : w.Drained := by
  induction hw with
  | start =>
    intro fd session hsession
    cases hsession
  | step _ _ hcondition ih => exact drained_step ih hcondition

/-- **The states that a worker can reach from one** when every step meets a condition. -/
inductive WebsocketWorker.ReachesFrom (parser : JsonParser) (writer : JsonWriter)
    (condition : WebsocketWorker → WorkerInput → Prop) (w : WebsocketWorker) :
    WebsocketWorker → Prop where
  | refl : ReachesFrom parser writer condition w w
  | step {v : WebsocketWorker} {input : WorkerInput} (h : ReachesFrom parser writer condition w v)
      (hadmits : v.Admits input) (hcondition : condition v input) :
      ReachesFrom parser writer condition w (v.step parser writer input)

theorem drained_of_reachesFrom (hdrained : w.Drained)
    (h : w.ReachesFrom parser writer LeavesNoFrame w') : w'.Drained := by
  induction h with
  | refl => exact hdrained
  | step _ _ hcondition ih => exact drained_step ih hcondition

/-- The chunk that completes the first so many bytes of a stream. -/
theorem exists_completing {chunks : List Bytes} {count : ℕ} (hpos : 0 < count)
    (hle : count ≤ chunks.flatten.length) :
    ∃ first chunk after, chunks = first ++ chunk :: after ∧ first.flatten.length < count ∧
      count ≤ (first ++ [chunk]).flatten.length := by
  induction chunks using List.reverseRecOn with
  | nil => exact absurd hle (not_le.2 hpos)
  | append_singleton chunks chunk ih =>
    by_cases hfirst : count ≤ chunks.flatten.length
    · obtain ⟨first, last, after, rfl, hshort, hlast⟩ := ih hfirst
      exact ⟨first, last, after ++ [chunk], by simp, hshort, hlast⟩
    · exact ⟨chunks, chunk, [], rfl, not_le.1 hfirst, hle⟩

/-- **No frame waits from now on**, as long as no registration brings one. -/
def WebsocketWorker.StaysDrained (parser : JsonParser) (writer : JsonWriter) (w : WebsocketWorker) :
    Prop :=
  ∀ w', w.ReachesFrom parser writer LeavesNoFrame w' → w'.Drained

/-- **What has arrived behind an upgrade is handed over, and waits if it is a frame.** Whatever the
pieces that a request to upgrade and the frames behind it arrive in, the bytes behind the request that
have been read are the input buffer of the new session; and no frame waits in any state from then on
exactly if these bytes do not start with one. -/
theorem upgrade_leftovers_iff {message : HttpMessage} (h : message.WellFormed) {order : List Bytes}
    (hupgrade : websocketUpgrade message.request order = true) {frames : Bytes} {chunks : List Bytes}
    (hchunks : chunks.flatten = message.bytes ++ frames) :
    ∃ first chunk after leftover pending, chunks = first ++ chunk :: after ∧
      first.flatten.length < message.bytes.length ∧
      (first ++ [chunk]).flatten = message.bytes ++ leftover ∧
      (receive chunks).handOver order = some pending ∧ pending.request = message.request ∧
      ∀ (parser : JsonParser) (writer : JsonWriter) (w : WebsocketWorker) (fd : Fd) (who : Identity)
        (now : SteadyTime), w.Reaches parser writer LeavesNoFrame → w.sessions fd = none →
        (∃ session, (w.step parser writer (pending.accept fd who now)).sessions fd = some session ∧
          session.connection.inputBuffer = leftover) ∧
        ((w.step parser writer (pending.accept fd who now)).StaysDrained parser writer ↔
          ¬ FrameAtFront leftover) := by
  have hpos : 0 < message.bytes.length := by simp [HttpMessage.bytes, crlf]
  have hle : message.bytes.length ≤ chunks.flatten.length := by
    rw [hchunks, List.length_append]
    exact Nat.le_add_right _ _
  obtain ⟨first, chunk, after, rfl, hshort, hcomplete⟩ := exists_completing hpos hle
  obtain ⟨leftover, hleftover, hpending⟩ :=
    handOver_of_message h hupgrade hchunks hshort hcomplete
  refine ⟨first, chunk, after, leftover, _, rfl, hshort, hleftover.symm, hpending, rfl, ?_⟩
  intro parser writer w fd who now hw hfree
  rw [PendingWebsocket.accept]
  have hsession := congrFun (@sessions_registration parser writer w fd hfree who leftover now) fd
  rw [update_self] at hsession
  refine ⟨⟨_, hsession, rfl⟩, fun hdrained => hdrained _ .refl fd _ hsession, fun hnone w' hw' => ?_⟩
  have hcondition : LeavesNoFrame w (.register fd who leftover now true) := fun _ _ => hnone
  exact drained_of_reachesFrom (drained_step (drained_of_reaches hw) hcondition) hw'

namespace Sample

/-- A request to upgrade. -/
def upgrade : HttpMessage :=
  ⟨utf8 "GET", utf8 "/", utf8 "HTTP/1.1", [⟨utf8 "Upgrade", utf8 " websocket"⟩], []⟩

theorem wellFormed_upgrade : upgrade.WellFormed := by
  refine ⟨by decide, ?_, by decide, ?_, ?_, ?_, by decide +kernel⟩
  · exact findCrlf_eq_none_iff.1 rfl
  · exact findCrlf_eq_none_iff.1 rfl
  · exact findCrlf_eq_none_iff.1 rfl
  · intro header hheader
    obtain rfl := List.mem_singleton.1 hheader
    exact ⟨by decide, by decide, findCrlf_eq_none_iff.1 rfl, findCrlf_eq_none_iff.1 rfl,
      fun hlength => absurd hlength (by decide)⟩

theorem websocketUpgrade_upgrade :
    websocketUpgrade upgrade.request [utf8 "Upgrade"] = true := by
  decide +kernel

end Sample

/-- The Ping behind the request comes with the next `recv`, and that is one of the worker. -/
theorem upgrade_leftovers_iff_apart : ∃ pending,
    (receive [Sample.upgrade.bytes, Sample.encoded Sample.clientPing]).handOver [utf8 "Upgrade"] =
        some pending ∧
      (WebsocketWorker.start.step Sample.objectParser Sample.noWriter
        (pending.accept 7 Sample.who 0)).StaysDrained Sample.objectParser Sample.noWriter := by
  obtain ⟨first, chunk, after, leftover, pending, hchunks, hshort, hleftover, hpending, -, hworker⟩ :=
    upgrade_leftovers_iff Sample.wellFormed_upgrade Sample.websocketUpgrade_upgrade
      (show [Sample.upgrade.bytes, Sample.encoded Sample.clientPing].flatten =
        Sample.upgrade.bytes ++ Sample.encoded Sample.clientPing by simp)
  refine ⟨pending, hpending, (hworker Sample.objectParser Sample.noWriter .start 7 Sample.who 0 .start
    rfl).2.2 ?_⟩
  have hnil : leftover = [] := by
    cases first with
    | nil =>
      obtain ⟨rfl, -⟩ := List.cons.inj hchunks
      simpa using hleftover
    | cons other first =>
      obtain ⟨rfl, -⟩ := List.cons.inj hchunks
      rw [List.flatten_cons, List.length_append] at hshort
      omega
  rw [hnil]
  rintro ⟨frame, key, rest, hframe, heq⟩
  have hlength := congrArg List.length heq
  rw [List.length_append, length_mask_frameEncoder, List.length_nil, maskSize] at hlength
  omega

/-- The Ping comes together with the request, and waits in the buffer. -/
theorem upgrade_leftovers_fails :
    Sample.upgrade.WellFormed ∧ websocketUpgrade Sample.upgrade.request [utf8 "Upgrade"] = true ∧
      ∃ pending, (receive [Sample.upgrade.bytes ++ Sample.encoded Sample.clientPing]).handOver
        [utf8 "Upgrade"] = some pending ∧
        ¬ (WebsocketWorker.start.step Sample.objectParser Sample.noWriter
          (pending.accept 7 Sample.who 0)).Drained := by
  refine ⟨Sample.wellFormed_upgrade, Sample.websocketUpgrade_upgrade, ?_⟩
  obtain ⟨leftover, hleftover, hpending⟩ := @handOver_of_message _ Sample.wellFormed_upgrade _
    Sample.websocketUpgrade_upgrade (Sample.encoded Sample.clientPing) [] []
    (Sample.upgrade.bytes ++ Sample.encoded Sample.clientPing) (by simp)
    (by simp [HttpMessage.bytes, crlf]) (by simp)
  obtain rfl : leftover = Sample.encoded Sample.clientPing := by simpa using hleftover
  refine ⟨_, hpending, fun hdrained => hdrained 7 _ rfl ?_⟩
  exact ⟨Sample.clientPing, fun _ => 0, [], (acceptable_iff _).2 (by decide), by simp [Sample.encoded]⟩

end ChatBackend
