import ChatBackend.Store.KeyRepository
import ChatBackend.Store.RefreshTokenRepository

/-!
# LoginTicketRepository

`src/repository/LoginTicketRepository.cpp` and `src/service/LoginTicketService.cpp`: a login ticket
is issued to an active account and consumed once, in the transaction that also verifies or registers
the device and stores the first refresh token.

A ticket's expiry is compared with `clock_timestamp()`, which moves on while a statement waits for
its lock; the re-check of the row reads the clock again. The time that a row is given is a reading of
its own: `consumed_at` is read after the row has passed its check, and `expires_at` after the default
of `created_at`.

## Main results

* `wp_complete` — what a completed login commits
* `wp_issue`
-/

namespace ChatBackend

open ReadCommitted

namespace LoginTicketRepository

variable {P : Platform} {db db' : Db}

/-! ### Issuing -/

/-- The constraints of `app.login_tickets` that an insertion can violate. -/
def violates (hash : String) (db : Db) : Option Error :=
  if hash.toList.length ≠ 64 ∨ ¬ hash.toList.all fun c =>
      ('0' ≤ c ∧ c ≤ '9') ∨ ('a' ≤ c ∧ c ≤ 'f') then
    some (queryError "23514" "login_tickets_ticket_hash_check")
  else if (db.loginTickets hash).isSome then some (queryError "23505" "login_tickets_pkey")
  else none

/-- `LoginTicketRepository::issue`. -/
def issue (userId : Uuid) (hash : String) : Tx Bool :=
  (selectActiveUser userId).bind fun account =>
    if account.isEmpty then .ret false
    else .read fun created => .read fun db =>
      (insertRow [.ticket (cString hash)] (violates (cString hash)) (.insertTicket (cString hash)
        ⟨userId, created.clock, db.clock + 5 * 60 * 1000000, none⟩)).bind fun _ => .ret true

/-- What issuing a ticket commits. -/
inductive IssueSpec (userId : Uuid) (hash : String) : Bool → List Write → Db → Prop where
  | issued {db : Db} (row : TicketRow) : db.isActive userId →
      db.loginTickets (cString hash) = none → row.userId = userId → row.consumedAt = none →
      IssueSpec userId hash true [.insertTicket (cString hash) row] db
  | refused {db : Db} : IssueSpec userId hash false [] db

/-- **`issue` meets its specification.** -/
theorem wp_issue {userId : Uuid} {hash : String} (db : Db) :
    wp (schema P) (issue userId hash)
      (fun r s db => IssueSpec userId hash r s.writes db) {} db := by
  refine wp_bind (wp_selectActiveUser rfl fun s₁ db₁ rows hw₁ hlo₁ h₁ hrows => ?_)
  cases rows with
  | nil => exact wp_ret fun db₂ h₂ => hw₁ ▸ .refused
  | cons r rest =>
    obtain ⟨hk, hactive⟩ := hrows (by simp)
    refine wp_read fun created h₂' => wp_read fun db₂ h₂'' => wp_bind (wp_insertRow
      (List.subset_append_left _ _) fun s₃ db₃ db₄ hw₃ _ hlo₃ hkeys h₃ h₄ hv =>
        wp_ret fun db₅ h₅ => ?_)
    have h₂ : Interference (schema P) s₁.locks db₁ db₂ := h₂'.trans h₂''
    have hticket : (Key.ticket (cString hash), Mode.exclusive) ∈ s₃.locks :=
      hkeys _ (List.mem_singleton_self _)
    have h₃₅ : Interference (schema P) s₃.locks db₃ db₅ := h₄.trans h₅
    have hnone : db₃.loginTickets (cString hash) = none := by
      rw [Local.writes_see, Local.writes_see, hw₁, Schema.applyAll_nil] at hv
      unfold violates at hv
      split_ifs at hv with _ hsome
      simpa using hsome
    have hw : s₃.writes = [.insertTicket (cString hash) ⟨userId, ((schema P).view s₁ created).clock,
        ((schema P).view (s₁.see created) db₂).clock + 5 * 60 * 1000000, none⟩] := by
      rw [hw₃, Local.writes_see, Local.writes_see, hw₁]
      rfl
    rw [hw]
    refine .issued _ ?_ ((loginTickets_stable hticket h₃₅).trans hnone) rfl rfl
    rw [Db.isActive, users_stable hk (h₂.trans (h₃.trans (h₃₅.mono hlo₃)))]
    exact hactive

/-! ### Completing a login -/

/-- The ticket row, if it can still be consumed now: its user. -/
def consumable (hash : String) (db : Db) : Option Uuid :=
  ((db.loginTickets hash).filter fun row => row.consumedAt = none ∧ db.clock < row.expiresAt).map
    (·.userId)

theorem consumable_eq_some {hash : String} {user : Uuid} :
    consumable hash db = some user ↔ ∃ row, db.loginTickets hash = some row ∧ row.userId = user ∧
      row.consumedAt = none ∧ db.clock < row.expiresAt := by
  simp only [consumable, Option.map_eq_some_iff, Option.filter_eq_some_iff, decide_eq_true_eq]
  constructor
  · rintro ⟨row, ⟨hrow, hc, he⟩, huser⟩
    exact ⟨row, hrow, huser, hc, he⟩
  · rintro ⟨row, hrow, huser, hc, he⟩
    exact ⟨row, ⟨hrow, hc, he⟩, huser⟩

/-- `SELECT user_id FROM app.login_tickets WHERE … FOR UPDATE`. -/
def selectTicket (hash : String) : Tx (List Uuid) :=
  selectLocked (fun _ : Unit => [(.ticket hash, .exclusive)])
    (fun db => ((consumable hash db).map fun _ => ()).toList) fun db _ => consumable hash db

/-- `UPDATE app.login_tickets SET consumed_at = clock_timestamp() WHERE … RETURNING ticket_hash`. The
row is found, locked and checked as in the query; the clock is read again for the value that is set. -/
def consumeTicket (hash : String) : Tx (List Uuid) :=
  (selectTicket hash).bind fun rows =>
    if rows.isEmpty then .ret [] else .read fun db => .write (.consumeTicket hash db.clock) (.ret rows)

/-- The verified device: the row of the device, which must be the user's and active. -/
def verifyTarget (userId deviceId : Uuid) : Tx (Except LoginTicketStatus Uuid) :=
  (selectDevice deviceId .share).bind fun device => match device with
    | [] => .ret (.error .deviceNotFound)
    | (owner, status) :: _ =>
      if owner ≠ userId then .ret (.error .deviceNotOwned)
      else if status ≠ .active then .ret (.error .deviceNotActive)
      else .ret (.ok deviceId)

/-- The last steps of `complete`: the ticket is consumed, the device registered if there is one to
register, and the refresh token stored. -/
def finish (P : Platform) (hash refreshHash : String) (userId targetDevice : Uuid)
    (registration : Option DeviceRegistrationInput) (now : Time) : Tx LoginTicketResult :=
  (consumeTicket hash).bind fun consumed =>
    if consumed.isEmpty then .ret ⟨.invalidTicket, none⟩
    else match registration with
      | none => (RefreshTokenRepository.insertRefreshToken userId targetDevice refreshHash now).bind
          fun _ => .ret ⟨.success, some ⟨userId, targetDevice⟩⟩
      | some input => (KeyRepository.registerNewDevice P userId input now).bind fun device =>
          (RefreshTokenRepository.insertRefreshToken userId device.deviceId refreshHash now).bind
          fun _ => .ret ⟨.success, some ⟨userId, device.deviceId⟩⟩

/-- `LoginTicketRepository::complete`. -/
def complete (P : Platform) (ticketHash refreshHash : String) (deviceId : Option Uuid)
    (registration : Option DeviceRegistrationInput) : Tx LoginTicketResult :=
  let hash := cString ticketHash
  if deviceId.isNone = registration.isNone then
    .throw (.invalidArgument "Choose exactly one login completion path")
  else beginTransaction.bind fun now => (selectTicket hash).bind fun ticket => match ticket with
    | [] => .ret ⟨.invalidTicket, none⟩
    | userId :: _ => (selectActiveUser userId).bind fun account =>
      if account.isEmpty then .ret ⟨.accountDisabled, none⟩
      else match deviceId with
        | none => finish P hash refreshHash userId 0 registration now
        | some device => (verifyTarget userId device).bind fun target => match target with
          | .error status => .ret ⟨status, none⟩
          | .ok targetDevice => finish P hash refreshHash userId targetDevice registration now

/-- A new refresh token of a login. -/
structure LoginToken (user deviceId : Uuid) (refreshHash : String) (token : TokenRow) (db : Db) :
    Prop where
  user : token.userId = user
  device : token.deviceId = deviceId
  hash : token.tokenHash = cString refreshHash
  notRevoked : token.revokedAt = none
  unused : RefreshTokenRepository.Unused token.id token.tokenHash db

/-- **The ticket is consumed**: its row in `db` is unconsumed, and was unexpired in a state that the
transaction read; the next state that it read has the time `now` that `consumed_at` is set to. -/
structure Consumes (hash : String) (ticket : TicketRow) (now : Time) (seen : List Db) (db : Db) :
    Prop where
  stored : db.loginTickets hash = some ticket
  unconsumed : ticket.consumedAt = none
  checked : ∃ reads written checked earlier, seen = reads ++ written :: checked :: earlier ∧
    checked.loginTickets hash = some ticket ∧ checked.clock < ticket.expiresAt ∧
    checked.clock ≤ written.clock ∧ written.clock = now
  committed : now ≤ db.clock

/-- What `complete` commits. In both successful outcomes the ticket is consumed and the account is
active. -/
inductive CompleteSpec (hash refreshHash : String) (deviceId : Option Uuid)
    (registration : Option DeviceRegistrationInput) :
    LoginTicketResult → List Db → List Write → Db → Prop where
  | verified {seen : List Db} {db : Db} (ticket : TicketRow) (now : Time) (target : Uuid)
      (row : DeviceRow) (token : TokenRow) : deviceId = some target → registration = none →
      Consumes hash ticket now seen db → db.isActive ticket.userId →
      db.userDevices target = some row → row.userId = ticket.userId → row.status = .active →
      LoginToken ticket.userId target refreshHash token db →
      CompleteSpec hash refreshHash deviceId registration ⟨.success, some ⟨ticket.userId, target⟩⟩
        seen [.consumeTicket hash now, .insertToken token] db
  | registered {seen : List Db} {db : Db} (ticket : TicketRow) (now : Time) (target : Uuid)
      (row : DeviceRow) (bundle : BundleRow) (token : TokenRow) : deviceId = none →
      registration.isSome → Consumes hash ticket now seen db → db.isActive ticket.userId →
      db.userDevices target = none → KeyRepository.Registration ticket.userId target row bundle →
      LoginToken ticket.userId target refreshHash token db →
      CompleteSpec hash refreshHash deviceId registration ⟨.success, some ⟨ticket.userId, target⟩⟩
        seen [.consumeTicket hash now, .insertDevice target row, .insertBundle bundle,
          .insertToken token] db
  | refused {seen : List Db} {db : Db} (status : LoginTicketStatus) : status ≠ .success →
      CompleteSpec hash refreshHash deviceId registration ⟨status, none⟩ seen [] db

/-- **The query for a ticket, state by state.** A ticket that was found is checked once it is locked,
and stays as it is while it is locked, whatever the clock does. -/
theorem wp_selectTicket {hash : String} {Q : List Uuid → Local Db Write Key → Db → Prop}
    {s : Local Db Write Key} (hs : s.writes = [])
    (hnone : ∀ s' db', s'.writes = [] → s.locks ⊆ s'.locks →
      Interference (schema P) s.locks db db' → Q [] s' db')
    (hsome : ∀ s' found checked db' ticket, s'.writes = [] →
      s'.seen = checked :: found :: s.seen → s.locks ⊆ s'.locks →
      (Key.ticket hash, Mode.exclusive) ∈ s'.locks → Interference (schema P) s.locks db checked →
      Interference (schema P) s'.locks checked db' → checked.loginTickets hash = some ticket →
      ticket.consumedAt = none → checked.clock < ticket.expiresAt → Q [ticket.userId] s' db') :
    wp (schema P) (selectTicket hash) Q s db := by
  refine wp_read fun found h₁ => ?_
  rw [Schema.view, hs, Schema.applyAll_nil]
  beta_reduce
  cases hfound : consumable hash found with
  | none => exact wp_ret fun db₂ h₂ => hnone _ db₂ hs (List.Subset.refl _) (h₁.trans h₂)
  | some user =>
    refine wp_bind (wp_acquireAll fun s₂ db₂ hw₂ hs₂ hl₂ hls₂ h₂ => wp_read fun checked h₃ => ?_)
    have hw : s₂.writes = [] := hw₂.trans hs
    rw [Schema.view, hw, Schema.applyAll_nil]
    refine wp_bind (wp_ret fun db₃ h₄ => wp_ret fun db₄ h₅ => ?_)
    have h₀ : Interference (schema P) s.locks db checked := h₁.trans (h₂.trans (h₃.mono hl₂))
    have hend : Interference (schema P) s₂.locks checked db₄ := h₄.trans h₅
    beta_reduce
    cases hchecked : consumable hash checked with
    | none => exact hnone _ db₄ hw hl₂ (h₀.trans (hend.mono hl₂))
    | some user' =>
      obtain ⟨ticket, hticket, rfl, hunconsumed, hunexpired⟩ := consumable_eq_some.mp hchecked
      exact hsome (s₂.see checked) found checked db₄ ticket hw (congrArg (checked :: ·) hs₂) hl₂
        (hls₂ (List.mem_singleton_self _)) h₀ hend hticket hunconsumed hunexpired

/-- **Consuming a locked ticket**: it is unexpired when it is checked, and the time it is given is
read after that. -/
theorem wp_consumeTicket {hash : String} {ticket : TicketRow}
    {Q : List Uuid → Local Db Write Key → Db → Prop} {s : Local Db Write Key}
    (hs : s.writes = []) (hk : (Key.ticket hash, Mode.exclusive) ∈ s.locks)
    (hticket : db.loginTickets hash = some ticket)
    (hnone : ∀ s' db', s'.writes = [] → Q [] s' db')
    (hsome : ∀ s' now db', s'.writes = [.consumeTicket hash now] → s.locks ⊆ s'.locks →
      Interference (schema P) s.locks db db' → Consumes hash ticket now s'.seen db' →
      Q [ticket.userId] s' db') :
    wp (schema P) (consumeTicket hash) Q s db := by
  refine wp_bind (wp_selectTicket hs (fun s₁ db₁ hw _ _ => ?_)
    fun s₁ found checked db₁ row hw hseen hlo hkey h₁ h₂ hrow hunconsumed hunexpired => ?_)
  · exact wp_ret fun db₂ _ => hnone s₁ db₂ hw
  · obtain rfl : row = ticket := by
      rw [loginTickets_stable hk h₁, hticket] at hrow
      exact (Option.some.inj hrow).symm
    refine wp_read fun written h₃ => wp_write (List.cons_subset.mpr ⟨hkey, List.nil_subset _⟩)
      (wp_ret fun db₂ h₄ => ?_)
    have h₂₃ : Interference (schema P) s₁.locks checked written := h₂.trans h₃
    have h₀ : Interference (schema P) s.locks db db₂ := h₁.trans ((h₂₃.trans h₄).mono hlo)
    rw [Schema.view, hw, Schema.applyAll_nil]
    refine hsome _ written.clock db₂ (by rw [Local.writes_put, Local.writes_see, hw, List.nil_append])
      hlo h₀ ⟨(loginTickets_stable hk h₀).trans hticket, hunconsumed, ⟨[], written, checked,
        found :: s.seen, ?_, hrow, hunexpired, clock_stable h₂₃, rfl⟩, clock_stable h₄⟩
    rw [Local.seen_put, Local.seen_see, hseen, List.nil_append]

/-- It stays so to the end of the transaction. -/
theorem Consumes.later {hash : String} {ticket : TicketRow} {now : Time} {seen seen' : List Db}
    {locks : List (Key × Mode)} (h : Consumes hash ticket now seen db)
    (hk : (Key.ticket hash, Mode.exclusive) ∈ locks) (hseen : seen <:+ seen')
    (hi : Interference (schema P) locks db db') : Consumes hash ticket now seen' db' := by
  obtain ⟨more, rfl⟩ := hseen
  obtain ⟨reads, written, checked, earlier, rfl, hchecked⟩ := h.checked
  refine ⟨(loginTickets_stable hk hi).trans h.stored, h.unconsumed,
    ⟨more ++ reads, written, checked, earlier, ?_, hchecked⟩, h.committed.trans (clock_stable hi)⟩
  rw [List.append_assoc]

theorem wp_verifyTarget {user device : Uuid}
    {Q : Except LoginTicketStatus Uuid → Local Db Write Key → Db → Prop} {s : Local Db Write Key}
    (hs : s.writes = [])
    (hQ : ∀ s' db' r, s'.writes = [] → s.locks ⊆ s'.locks → Interference (schema P) s.locks db db' →
      (∀ status, r = .error status → status ≠ .success) →
      (∀ target, r = .ok target → target = device ∧ (Key.device device, Mode.share) ∈ s'.locks ∧
        ∃ row, db'.userDevices device = some row ∧ row.userId = user ∧ row.status = .active) →
      Q r s' db') :
    wp (schema P) (verifyTarget user device) Q s db := by
  refine wp_bind (wp_selectDevice hs fun s₁ db₁ rows hw hlo h₁ hrows => ?_)
  have hfail : ∀ status, status ≠ LoginTicketStatus.success →
      wp (schema P) (.ret (.error status) : Tx (Except LoginTicketStatus Uuid)) Q s₁ db₁ := by
    intro status hne
    refine wp_ret fun db₂ h₂ => hQ s₁ db₂ _ hw hlo (h₁.trans (h₂.mono hlo)) ?_ (by simp)
    rintro _ ⟨⟩
    exact hne
  rcases rows with _ | ⟨⟨owner, status⟩, rest⟩
  · exact hfail _ (by decide)
  · obtain ⟨hk, row, hrow, hown, hst⟩ := hrows _ (List.mem_cons_self ..)
    dsimp only
    split_ifs with hne hact
    · exact hfail _ (by decide)
    · exact hfail _ (by decide)
    · push Not at hne hact
      refine wp_ret fun db₂ h₂ => hQ s₁ db₂ _ hw hlo (h₁.trans (h₂.mono hlo)) (by simp) ?_
      rintro _ ⟨⟩
      exact ⟨rfl, hk, row, (userDevices_stable hk h₂).trans hrow, hown.trans hne, hst.trans hact⟩

/-- Storing the refresh token at the end of a login. -/
theorem wp_insertRefreshToken {user deviceId : Uuid} {refreshHash : String} {now : Time}
    {Q : Unit → Local Db Write Key → Db → Prop} {s : Local Db Write Key}
    (hs : ∀ x, ((schema P).applyAll s.writes x).refreshTokens = x.refreshTokens)
    (hdev : ∀ a b : Db, a.userDevices deviceId = b.userDevices deviceId →
      ((schema P).applyAll s.writes a).userDevices deviceId =
        ((schema P).applyAll s.writes b).userDevices deviceId)
    (hQ : ∀ s' db' token, s'.writes = s.writes ++ [.insertToken token] → s.locks ⊆ s'.locks →
      Interference (schema P) s.locks db db' →
      (∀ later, Interference (schema P) s'.locks db' later →
        LoginToken user deviceId refreshHash token later) → Q () s' db') :
    wp (schema P) (RefreshTokenRepository.insertRefreshToken user deviceId refreshHash now) Q s db := by
  refine wp_read fun db₁ h₁ => RefreshTokenRepository.wp_insertToken (fun x => ?_) hdev
    fun s₂ db₂ token hw hlo h₂ htoken hlater => ?_
  · rw [Local.writes_see, hs]
  · obtain ⟨huser, hdevice, hhash, hrev, -⟩ := htoken
    refine hQ s₂ db₂ token hw hlo (h₁.trans h₂) fun later hi => ⟨huser, hdevice, hhash, hrev, ?_⟩
    rw [hhash]
    exact (hlater later hi).2

/-- The last steps, on a locked ticket of a locked account and, on the verify path, for a locked
device. -/
theorem wp_finish {hash refreshHash : String} {target : Uuid} {deviceId : Option Uuid}
    {registration : Option DeviceRegistrationInput} {now : Time} {ticket : TicketRow}
    {s : Local Db Write Key} (hs : s.writes = []) (hk : (Key.ticket hash, Mode.exclusive) ∈ s.locks)
    (hticket : db.loginTickets hash = some ticket)
    (huser : (Key.user ticket.userId, Mode.share) ∈ s.locks) (hactive : db.isActive ticket.userId)
    (hpath : (deviceId = none ∧ registration.isSome) ∨ (deviceId = some target ∧ registration = none ∧
      (Key.device target, Mode.share) ∈ s.locks ∧ ∃ row, db.userDevices target = some row ∧
        row.userId = ticket.userId ∧ row.status = .active)) :
    wp (schema P) (finish P hash refreshHash ticket.userId target registration now)
      (fun r s db => CompleteSpec hash refreshHash deviceId registration r s.seen s.writes db) s db := by
  refine wp_bind (wp_consumeTicket hs hk hticket (fun s₁ db₁ hw₁ => ?_)
    fun s₁ now' db₁ hw₁ hlo₁ h₁ hconsumes => ?_)
  · exact wp_ret fun db₂ h₂ => hw₁ ▸ .refused _ (by decide)
  rw [if_neg (by simp)]
  refine wp_reads ?_
  -- what is still true at the end
  have hend : ∀ later seen, s₁.seen <:+ seen → Interference (schema P) s₁.locks db₁ later →
      Consumes hash ticket now' seen later ∧ later.isActive ticket.userId := by
    intro later seen hseen hi
    refine ⟨hconsumes.later (hlo₁ hk) hseen hi, ?_⟩
    rw [Db.isActive, users_stable huser (h₁.trans (hi.mono hlo₁))]
    exact hactive
  rcases hpath with ⟨rfl, hreg⟩ | ⟨rfl, rfl, hdk, row, hrow, hown, hst⟩
  · obtain ⟨input, rfl⟩ := Option.isSome_iff_exists.mp hreg
    refine wp_bind (KeyRepository.wp_registerNewDevice (fun x d => by rw [hw₁]; rfl)
      fun s₂ db₂ device row bundle hw₂ hlo₂ h₂ hdk hfree hregistration => ?_)
    refine wp_bind (wp_insertRefreshToken (fun x => by rw [hw₂, hw₁]; rfl) (fun a b hab => ?_)
      fun s₃ db₃ token hw₃ hlo₃ h₃ htoken => wp_ret fun db₄ h₄ hseen => ?_)
    · rw [hw₂, hw₁]
      simp [Db.write, hab]
    · have h₂₄ : Interference (schema P) s₂.locks db₂ db₄ := h₃.trans (h₄.mono hlo₃)
      obtain ⟨hconsumed, ha⟩ := hend db₄ _ hseen (h₂.trans (h₂₄.mono hlo₂))
      rw [hw₃, hw₂, hw₁]
      exact .registered ticket _ _ row bundle token rfl rfl hconsumed ha
        ((userDevices_stable hdk h₂₄).trans hfree) hregistration (htoken db₄ h₄)
  · refine wp_bind (wp_insertRefreshToken (fun x => by rw [hw₁]; rfl) (fun a b hab => ?_)
      fun s₃ db₃ token hw₃ hlo₃ h₃ htoken => wp_ret fun db₄ h₄ hseen => ?_)
    · rw [hw₁]
      exact hab
    · have h₁₄ : Interference (schema P) s₁.locks db₁ db₄ := h₃.trans (h₄.mono hlo₃)
      obtain ⟨hconsumed, ha⟩ := hend db₄ _ hseen h₁₄
      rw [hw₃, hw₁]
      exact .verified ticket _ target row token rfl rfl hconsumed ha
        ((userDevices_stable hdk (h₁.trans (h₁₄.mono hlo₁))).trans hrow) hown hst (htoken db₄ h₄)

/-- **`complete` meets its specification.** -/
theorem wp_complete {ticketHash refreshHash : String} {deviceId : Option Uuid}
    {registration : Option DeviceRegistrationInput} (db : Db) :
    wp (schema P) (complete P ticketHash refreshHash deviceId registration)
      (fun r s db => CompleteSpec (cString ticketHash) refreshHash deviceId registration r s.seen
        s.writes db) {} db := by
  rw [complete]
  split_ifs with hpath
  · trivial
  refine wp_bind (wp_read fun db₀ h₀ => wp_ret fun db₁ h₁ => wp_bind
    (wp_selectTicket rfl (fun s₂ db₂ hw₂ _ _ => ?_)
      fun s₂ found checked db₂ ticket hw₂ _ _ hk _ h₂ hchecked _ _ => ?_))
  · exact wp_ret fun db₃ h₃ => hw₂ ▸ .refused _ (by decide)
  have hticket : db₂.loginTickets (cString ticketHash) = some ticket :=
    (loginTickets_stable hk h₂).trans hchecked
  refine wp_bind (wp_selectActiveUser hw₂ fun s₃ db₃ account hw₃ hlo₃ h₃ haccount => ?_)
  have hticket₃ : db₃.loginTickets (cString ticketHash) = some ticket :=
    (loginTickets_stable hk h₃).trans hticket
  cases account with
  | nil => exact wp_ret fun db₄ h₄ => hw₃ ▸ .refused _ (by decide)
  | cons r rest =>
    obtain ⟨huser, hactive⟩ := haccount (by simp)
    rw [if_neg (by simp)]
    cases deviceId with
    | none =>
      refine wp_finish hw₃ (hlo₃ hk) hticket₃ huser hactive (Or.inl ⟨rfl, ?_⟩)
      cases registration with
      | none => exact absurd rfl hpath
      | some input => rfl
    | some device =>
      refine wp_bind (wp_verifyTarget hw₃ fun s₄ db₄ target hw₄ hlo₄ h₄ hbad hgood => ?_)
      cases target with
      | error status => exact wp_ret fun db₅ h₅ => hw₄ ▸ .refused _ (hbad status rfl)
      | ok target =>
        obtain ⟨rfl, hdk, hrow⟩ := hgood target rfl
        refine wp_finish hw₄ (hlo₄ (hlo₃ hk)) ((loginTickets_stable (hlo₃ hk) h₄).trans hticket₃)
          (hlo₄ huser) ?_ (Or.inr ⟨rfl, ?_, hdk, hrow⟩)
        · rw [Db.isActive, users_stable huser h₄]
          exact hactive
        · cases registration with
          | none => rfl
          | some input => exact absurd rfl hpath

end LoginTicketRepository

/-! ### The service -/

namespace LoginTicketService

open LoginTicketRepository

/-- `LoginTicketService::validTicket`. -/
def validTicket (ticket : String) : Bool :=
  ticket.toList.length = 64 ∧ ticket.toList.all fun c =>
    ('0' ≤ c ∧ c ≤ '9') ∨ ('a' ≤ c ∧ c ≤ 'f')

/-- `LoginTicketService::hashTicket`. -/
def hashTicket (P : Platform) (ticket : String) : String :=
  P.refreshTokenHash ("login-ticket-v1:" ++ ticket)

/-- `LoginTicketService::complete`; `refreshToken` is the random token it generates. -/
def complete (P : Platform) (ticket : String) (deviceId : Option Uuid)
    (registration : Option DeviceRegistrationInput) (refreshToken : String) : Tx LoginTicketResult :=
  if validTicket ticket = false then .ret ⟨.invalidTicket, none⟩
  else LoginTicketRepository.complete P (hashTicket P ticket) (P.refreshTokenHash refreshToken)
    deviceId registration

/-- `LoginTicketService::verifyDevice`. -/
def verifyDevice (P : Platform) (ticket : String) (device : Uuid) (refreshToken : String) :
    Tx LoginTicketResult :=
  if device.isNil then .ret ⟨.deviceNotFound, none⟩
  else complete P ticket (some device) none refreshToken

/-- `LoginTicketService::registerDevice`. -/
def registerDevice (P : Platform) (ticket : String) (input : DeviceRegistrationInput)
    (refreshToken : String) : Tx LoginTicketResult :=
  complete P ticket none (some input) refreshToken

variable {P : Platform}

theorem wp_complete {ticket : String} {deviceId : Option Uuid}
    {registration : Option DeviceRegistrationInput} {refreshToken : String} (db : Db) :
    wp (schema P) (complete P ticket deviceId registration refreshToken)
      (fun r s db => CompleteSpec (cString (hashTicket P ticket)) (P.refreshTokenHash refreshToken)
        deviceId registration r s.seen s.writes db) {} db := by
  rw [complete]
  split_ifs
  · exact wp_ret fun db₁ h₁ => .refused _ (by decide)
  · exact LoginTicketRepository.wp_complete db

theorem wp_verifyDevice {ticket : String} {device : Uuid} {refreshToken : String} (db : Db) :
    wp (schema P) (verifyDevice P ticket device refreshToken)
      (fun r s db => CompleteSpec (cString (hashTicket P ticket)) (P.refreshTokenHash refreshToken)
        (some device) none r s.seen s.writes db) {} db := by
  rw [verifyDevice]
  split_ifs
  · exact wp_ret fun db₁ h₁ => .refused _ (by decide)
  · exact wp_complete db

theorem wp_registerDevice {ticket : String} {input : DeviceRegistrationInput} {refreshToken : String}
    (db : Db) :
    wp (schema P) (registerDevice P ticket input refreshToken)
      (fun r s db => CompleteSpec (cString (hashTicket P ticket)) (P.refreshTokenHash refreshToken)
        none (some input) r s.seen s.writes db) {} db :=
  wp_complete db

end LoginTicketService

end ChatBackend
