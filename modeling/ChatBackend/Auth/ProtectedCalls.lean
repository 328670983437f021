import ChatBackend.Auth.Passwords

/-!
# What protected calls rest on

Whatever clients send, a call for a user is made only in a request with a token that was made for this
user less than fifteen minutes before. That token was made for a login of the user, or for a refresh
token that descends from one; and behind the login is a request with the user's password.

## Main definitions

* `Origin` — the login behind an access token

## Main results

* `origin_of_generate` — every access token has one
* `protected_calls_descend` — and every protected call
-/

namespace ChatBackend

open Effects ReadCommitted
open Effects.Threads (pastOf mem_pastOf allowed_of_reachable answered_of_reachable)

/-- **The login behind an access token** of the user that this thread makes: the thread has had a refresh
token accepted that descends from one; or it has just completed one. -/
inductive Origin (P : Platform) (user : Uuid) (t : ℕ) (before : List ServerRecord) : Prop where
  | refresh (u : ServerRecord) (hu : u ∈ before) (hthread : u.thread = t) (refreshToken : String)
      (deviceId : Uuid) (since : Time)
      (hvalidated : u.event = ⟨.validate refreshToken, .ok (.ok user.toString)⟩)
      (hlineage : Lineage P user deviceId since u.world.store.log
        (cString (P.refreshTokenHash refreshToken)))
      (hsince : u.world.now < since + loginLife + 500000)
  | login (u : ServerRecord) (hu : u ∈ before) (hthread : u.thread = t)
      (ticketHash refreshHash : String) (device : Option Uuid)
      (registration : Option DeviceRegistrationInput) (deviceId : Uuid)
      (hcompleted : u.event = ⟨.complete ticketHash refreshHash device registration,
        .ok ⟨.success, some ⟨user, deviceId⟩⟩⟩)
      (log : List ClientEvent) (e : ClientEvent) (after : List ClientEvent) (tokenHash : String)
      (hlog : u.world.clients.log = log ++ e :: after)
      (hcall : e.call = (some t, .complete ticketHash refreshHash device registration))
      (hlogin : Login P user deviceId tokenHash (log.map (Event.mapCall Prod.snd))
        (e.mapCall Prod.snd))

variable {D : Deployment} {db₀ : Db} {now₀ : Time} {c : ServerRun}
  {before after : List ServerRecord} {r g u : ServerRecord} {user deviceId : Uuid} {t : ℕ}

/-- **Behind a lineage** is a ticket that was issued. -/
theorem Lineage.issued {P : Platform} {since : Time} {log : List StoreEvent} {tokenHash : String}
    (h : Lineage P user deviceId since log tokenHash) :
    ∃ i ∈ log, ∃ ticketHash, i.call = .issue user ticketHash := by
  induction h with
  | login hlogin _ =>
    obtain ⟨k, ticket, consumedAt, -, -, -, ⟨i, hi, ⟨hash, hcall, -⟩, -⟩, -⟩ := hlogin.ticket
    exact ⟨i, List.mem_append_left _ hi, hash, hcall⟩
  | rotated _ _ _ _ ih =>
    obtain ⟨i, hi, hcall⟩ := ih
    exact ⟨i, List.mem_append_left _ hi, hcall⟩
  | later _ ih =>
    obtain ⟨i, hi, hcall⟩ := ih
    exact ⟨i, List.mem_append_left _ hi, hcall⟩

/-- **Behind an origin** is a ticket that was issued. -/
theorem Origin.issued {P : Platform} (h : Origin P user t before) :
    ∃ u ∈ before, ∃ i ∈ u.world.clients.log, ∃ ticketHash, i.call.2 = .issue user ticketHash := by
  cases h with
  | refresh u hu _ refreshToken deviceId since _ hlineage _ =>
    obtain ⟨_, hmem, ticketHash, hcall⟩ := hlineage.issued
    obtain ⟨i, hi, rfl⟩ := List.mem_map.mp hmem
    exact ⟨u, hu, i, hi, ticketHash, hcall⟩
  | login u hu _ ticketHash refreshHash device registration deviceId _ log e after tokenHash hlog _
      hlogin =>
    obtain ⟨k, ticket, consumedAt, -, -, -, ⟨_, hmem, ⟨hash, hcall, -⟩, -⟩, -⟩ := hlogin.ticket
    obtain ⟨i, hi, rfl⟩ := List.mem_map.mp hmem
    exact ⟨u, hu, i, hlog ▸ List.mem_append_left _ hi, hash, hcall⟩

/-- The store of a record, as a serial run. -/
theorem timed_of_mem (h : Threads.Reachable (httpServer D) (.initial db₀ now₀) c)
    (hu : u ∈ c.history) : Serial.Reachable (store D.platform fun _ _ => True) (Timed D.platform) db₀
      u.world.store.serial := by
  obtain ⟨before, after, hhistory⟩ := List.append_of_mem hu
  exact (accountable_of_history h hhistory).reachable.serial (meets_timed D.platform _)

/-- **Behind an origin** is a password. -/
theorem Origin.passwordLogin {P : Platform} (horigin : Origin P user t c.history)
    (h : Threads.Reachable (httpServer D) (.initial db₀ now₀) c) (hlawful : D.hashing.Lawful) :
    ∃ t', PasswordLogin D.parser c.history t' user := by
  obtain ⟨u, hu, i, hi, ticketHash, hcall⟩ := horigin.issued
  obtain ⟨before, after, hhistory⟩ := List.append_of_mem hu
  obtain ⟨t', -, hlogin⟩ := loggedIn_of_issue (accountable_of_history h hhistory) hi hcall
  have hsub : pastOf t' before ⊆ pastOf t' c.history := by
    rw [hhistory]
    exact Threads.pastOf_subset_append t' before _
  exact ⟨t', passwordLogin_of_loggedIn h hlawful (hlogin.mono hsub)⟩

section Origins

variable (h : Threads.Reachable (httpServer D) (.initial db₀ now₀) c)
  (htickets : ∀ hash, db₀.loginTickets hash = none) (htokens : db₀.refreshTokens = [])

include h htickets htokens

/-- **A refresh token that is accepted** descends from a login. -/
theorem lineage_of_validate (hu : u ∈ c.history) {refreshToken text : String}
    (hevent : u.event = ⟨.validate refreshToken, .ok (.ok text)⟩) :
    ∃ user deviceId since, text = Uuid.toString user ∧
      Lineage D.platform user deviceId since u.world.store.log
        (cString (D.platform.refreshTokenHash refreshToken)) ∧
      u.world.now < since + loginLife + 500000 := by
  have hanswered := answered_of_reachable h hu
  rw [hevent] at hanswered
  rcases hanswered with ⟨error, herror⟩ | ⟨db, hdb, hvalidate⟩
  · cases herror
  · cases hresult : RefreshTokenRepository.validate D.platform refreshToken u.world.now db with
    | error status =>
      rw [hresult] at hvalidate
      cases hvalidate
    | ok user =>
      rw [hresult] at hvalidate
      obtain rfl : text = user.toString := by simpa [Except.map] using hvalidate
      have hdescends := (descends_of_reachable (timed_of_mem h hu) htickets htokens).2 db hdb
      obtain ⟨deviceId, since, hlineage, hsince⟩ := hdescends.of_validate hresult
      exact ⟨user, deviceId, since, rfl, hlineage, hsince⟩

/-- **A login that is completed** is one, in a transaction of the same thread. -/
theorem login_of_complete (hu : u ∈ c.history) {ticketHash refreshHash : String}
    {device : Option Uuid} {registration : Option DeviceRegistrationInput}
    (hevent : u.event = ⟨.complete ticketHash refreshHash device registration,
      .ok ⟨.success, some ⟨user, deviceId⟩⟩⟩) :
    ∃ log e after tokenHash, u.world.clients.log = log ++ e :: after ∧
      e.call = (some u.thread, .complete ticketHash refreshHash device registration) ∧
      Login D.platform user deviceId tokenHash (log.map (Event.mapCall Prod.snd))
        (e.mapCall Prod.snd) := by
  have hanswered := answered_of_reachable h hu
  rw [hevent] at hanswered
  rcases hanswered with hnone | ⟨error, herror⟩ |
    ⟨e, he, call, reply, a, ha, htransaction, hcall, hreturned⟩
  · cases hnone
  · cases herror
  · obtain rfl := Except.ok.inj ha
    obtain ⟨rfl, rfl⟩ := Prod.mk.inj (Option.some.inj htransaction)
    obtain ⟨log, after, hlog⟩ := List.append_of_mem he
    have hstore : u.world.store.serial.log = log.map (Event.mapCall Prod.snd) ++
        e.mapCall Prod.snd :: after.map (Event.mapCall Prod.snd) := by
      show u.world.clients.log.map (Event.mapCall Prod.snd) = _
      rw [hlog, List.map_append, List.map_cons]
    obtain ⟨tokenHash, hlogin⟩ := login_of_log (timed_of_mem h hu) htickets htokens hstore hreturned
    exact ⟨log, e, after, tokenHash, hlog, hcall, hlogin⟩

/-- **Every access token has an origin**, in the thread that makes it. -/
theorem origin_of_generate {text : String} (hhistory : c.history = before ++ g :: after)
    (hop : g.event.op = .generateAccessToken text) :
    ∃ user, text = Uuid.toString user ∧ Origin D.platform user g.thread before := by
  have hgrounds := (allowed_of_reachable obeys_httpServer h hhistory).grounds
  rw [hop] at hgrounds
  have hmem {u : ServerRecord} (hu : u ∈ before) : u ∈ c.history :=
    hhistory ▸ List.mem_append_left _ hu
  rcases hgrounds with ⟨refreshToken, hpast⟩ |
    ⟨ticketHash, refreshHash, device, registration, ⟨user, deviceId⟩, htext, hpast⟩
  · obtain ⟨u, hu, hthread, hevent⟩ := mem_pastOf.mp hpast
    obtain ⟨user, deviceId, since, rfl, hlineage, hsince⟩ :=
      lineage_of_validate h htickets htokens (hmem hu) hevent
    exact ⟨user, rfl, .refresh u hu hthread refreshToken deviceId since hevent hlineage hsince⟩
  · obtain ⟨u, hu, hthread, hevent⟩ := mem_pastOf.mp hpast
    obtain ⟨log, e, after', tokenHash, hlog, hcall, hlogin⟩ :=
      login_of_complete h htickets htokens (hmem hu) hevent
    exact ⟨user, htext, .login u hu hthread ticketHash refreshHash device registration deviceId hevent
      log e after' tokenHash hlog (hthread ▸ hcall) hlogin⟩

end Origins

/-- **What protected calls rest on.** Let the server begin with no accounts, no tickets and no tokens.
In every run, whatever requests are sent at the same time, a call for a user is made only in a thread
whose request has an access token that the thread has had verified; it had been made for that user
less than fifteen minutes before, in a thread which had just had a refresh token accepted that descends
from a login of the user, or had just completed one; and before that some request had brought the
password with which the user's account was registered. -/
theorem protected_calls_descend
    (h : Threads.Reachable (httpServer D) (.initial db₀ now₀) c)
    (htickets : ∀ hash, db₀.loginTickets hash = none) (htokens : db₀.refreshTokens = [])
    (hlawful : D.hashing.Lawful) (hreliable : D.Reliable c.history)
    (hhistory : c.history = before ++ r :: after) (hactor : r.event.op.actor = some user) :
    ∃ request accessToken earlier g later v token, before = earlier ++ g :: later ∧ v ∈ later ∧
      HasAnswered (pastOf r.thread before) .receive request ∧
      AuthMiddleWare.accessTokenOf request = some accessToken ∧
      v.thread = r.thread ∧ v.event = ⟨.verify accessToken, .ok (.ok user)⟩ ∧
      g.event = ⟨.generateAccessToken user.toString, .ok token⟩ ∧ utf8 token = accessToken ∧
      v.world.now < g.world.now + AccessTokenService.accessTokenLife ∧
      Origin D.platform user g.thread earlier ∧ ∃ t, PasswordLogin D.parser earlier t user := by
  obtain ⟨request, accessToken, hreceived, hrequest, hpast⟩ :=
    (allowed_of_reachable obeys_httpServer h hhistory).actor user hactor
  obtain ⟨v, hv, hthread, hevent⟩ := mem_pastOf.mp hpast
  obtain ⟨past, rest, rfl⟩ := List.append_of_mem hv
  have hatVerify : c.history = past ++ v :: (rest ++ r :: after) := by
    rw [hhistory, List.append_assoc, List.cons_append]
  -- the token was verified, so it has been made before
  have hanswered := answered_of_reachable h (hatVerify ▸ List.mem_append_right _ (List.mem_cons_self ..))
  rw [hevent] at hanswered
  rcases hanswered with ⟨error, herror⟩ | ⟨verified, hverified⟩
  · cases herror
  have hok := (Except.ok.inj hverified).symm
  obtain ⟨g, hg, text, token, hgenerated, htoken⟩ := hreliable.unforged past v _ accessToken verified
    hatVerify (by rw [hevent]) (AccessTokenService.verify_eq_ok hok).1
  obtain ⟨earlier, between, rfl⟩ := List.append_of_mem hg
  have hatGenerate : c.history = earlier ++ g :: (between ++ v :: (rest ++ r :: after)) := by
    rw [hatVerify, List.append_assoc, List.cons_append]
  have hclaims := hreliable.readable g
    (hatGenerate ▸ List.mem_append_right _ (List.mem_cons_self ..)) text token hgenerated
  rw [htoken] at hclaims
  obtain ⟨huser, htime⟩ := AccessTokenService.verify_of_claims hclaims hok
  -- the user of the token is the one for whom it was made
  obtain ⟨user', rfl, horigin⟩ := origin_of_generate h htickets htokens hatGenerate (by rw [hgenerated])
  obtain rfl : user' = user := by simpa using huser
  obtain ⟨c', hc', rfl⟩ := Threads.exists_reachable_of_append h hatGenerate
  refine ⟨request, accessToken, c'.history, g, between ++ v :: rest, v, token, ?_, ?_, hreceived,
    hrequest, hthread, hevent, hgenerated, htoken, htime, horigin, horigin.passwordLogin hc' hlawful⟩
  · rw [List.append_assoc, List.cons_append]
  · exact List.mem_append_right _ (List.mem_cons_self ..)

/-- Alice revokes her tablet with the access token that she was given when she registered it. -/
theorem protected_calls_descend_after_login :
    ∃ (c : ServerRun) (before after : List ServerRecord) (r : ServerRecord),
      Threads.Reachable (httpServer Sample.deployment) Sample.world c ∧
      c.history = before ++ r :: after ∧ r.event.op.actor = some Sample.alice ∧
      ∃ earlier t t', earlier ⊆ before ∧ Origin Sample.platform Sample.alice t earlier ∧
        PasswordLogin Sample.deployment.parser earlier t' Sample.alice := by
  obtain ⟨c, hc, -, hreliable, hacts, -⟩ := Sample.exists_revocation
  obtain ⟨r, hr, halice⟩ := List.any_eq_true.mp hacts
  obtain ⟨before, after, hhistory⟩ := List.append_of_mem hr
  obtain ⟨_, _, earlier, g, later, _, _, rfl, -, -, -, -, -, -, -, -, horigin, t', hlogin⟩ :=
    protected_calls_descend hc (fun _ => rfl) rfl Sample.hexHashing_lawful
      (Sample.reliable_of_reliable hreliable) hhistory (of_decide_eq_true halice)
  exact ⟨c, _, after, r, hc, hhistory, of_decide_eq_true halice, earlier, _, t',
    List.subset_append_left _ _, horigin, hlogin⟩

end ChatBackend
