import PatrolBot.SignIn

/-!
# Who is let in

A token gives back its claims until it expires and not after.  In every run of the server in
which nobody presents a token that verifies and that the server did not put out, a user is
let in as the person who signed in, with the rights that sign-in gave.
-/

namespace PatrolBot.SignIn

open JsonText (Value)

variable {platform : Platform}

/-! ### Tokens -/

theorem splitLast_append {raw signature : List Char} (h : '.' ∉ signature) :
    splitLast (raw ++ '.' :: signature) = some (raw, signature) := by
  have hkeep : ∀ c ∈ signature.reverse, decide (c ≠ '.') = true := by
    intro c hc
    rw [List.mem_reverse] at hc
    exact decide_eq_true fun heq => h (heq ▸ hc)
  have htake := @List.takeWhile_append_of_pos _ _ _ ('.' :: raw.reverse) hkeep
  have hdrop := @List.dropWhile_append_of_pos _ _ _ ('.' :: raw.reverse) hkeep
  unfold splitLast
  rw [if_pos (by simp)]
  have hreverse : (raw ++ '.' :: signature).reverse =
      signature.reverse ++ '.' :: raw.reverse := by simp
  rw [hreverse, htake, hdrop]
  simp

theorem ascii_hexdigest {secret : String} {raw : List Char} {c : Char}
    (h : c ∈ platform.hexdigest secret raw) : c.toNat < 128 ∧ c ≠ '.' := by
  have hdigits : "0123456789abcdef".toList.all
      (fun c => decide (c.toNat < 128 ∧ c ≠ '.')) = true := by decide
  exact of_decide_eq_true (List.all_eq_true.mp hdigits c (platform.hex secret raw c h))

theorem isAscii_hexdigest (secret : String) (raw : List Char) :
    isAscii (platform.hexdigest secret raw) = true := by
  refine List.all_eq_true.mpr ?_
  intro c hc
  exact decide_eq_true (ascii_hexdigest hc).1

theorem isAscii_encode (bytes : List UInt8) : isAscii (Base64.encode bytes) = true := by
  refine List.all_eq_true.mpr ?_
  intro c hc
  exact decide_eq_true (Base64.ascii_encode hc).1

theorem lookup_set (key : String) (claim : Claim) (claims : Claims) :
    (claims.set key claim).lookup key = some claim := by
  induction claims with
  | nil => simp [Claims.set]
  | cons entry claims ih =>
    by_cases hkey : entry.1 = key
    · simp [Claims.set, hkey]
    · obtain ⟨name, value⟩ := entry
      simp only [Claims.set, if_neg hkey, List.lookup_cons, beq_eq_false_iff_ne.mpr (Ne.symm hkey)]
      exact ih

theorem mem_keys_set {key other : String} {claim : Claim} {claims : Claims}
    (h : other ∈ (claims.set key claim).map Prod.fst) :
    other = key ∨ other ∈ claims.map Prod.fst := by
  induction claims with
  | nil => exact Or.inl (by simpa [Claims.set] using h)
  | cons entry claims ih =>
    unfold Claims.set at h
    split at h
    · simp only [List.map_cons, List.mem_cons] at h ⊢
      tauto
    · simp only [List.map_cons, List.mem_cons] at h ⊢
      rcases h with h | h
      · exact Or.inr (Or.inl h)
      · exact (ih h).imp_right Or.inr

theorem nodup_set {key : String} {claim : Claim} {claims : Claims}
    (h : (claims.map Prod.fst).Nodup) : ((claims.set key claim).map Prod.fst).Nodup := by
  induction claims with
  | nil => simp [Claims.set]
  | cons entry claims ih =>
    rw [List.map_cons, List.nodup_cons] at h
    unfold Claims.set
    split
    · rename_i hkey
      rw [List.map_cons, List.nodup_cons]
      exact ⟨hkey ▸ h.1, h.2⟩
    · rename_i hkey
      rw [List.map_cons, List.nodup_cons]
      refine ⟨fun hmem => ?_, ih h.2⟩
      rcases mem_keys_set hmem with heq | hmem
      · exact hkey heq
      · exact h.1 hmem

/-- The signature of the token is the right one under the secret. -/
def Authentic (platform : Platform) (secret : String) (token : List Char) : Prop :=
  ∃ raw signature, splitLast token = some (raw, signature) ∧
    platform.hexdigest secret raw = signature

theorem authentic_of_verify {secret : String} {token : Option (List Char)} {now : ℚ}
    {claims : Claims} (h : verify platform secret token now = .session claims) :
    ∃ text, token = some text ∧ Authentic platform secret text := by
  unfold verify at h
  split at h
  · cases h
  · rename_i raw signature hsplit
    obtain ⟨text, rfl, hsplit⟩ := Option.bind_eq_some_iff.mp hsplit
    split at h
    · cases h
    · split at h
      · cases h
      · rename_i hsame
        exact ⟨text, rfl, raw, signature, hsplit, not_not.mp hsame⟩

/-- The claims of a token, as they are signed. -/
def issuedClaims (user : Claims) (ttl : Int) (now : ℚ) : Claims :=
  user.set "exp" (.number (⌊now⌋ + ttl))

/-- A token gives back its claims until it expires, under any secret that it verifies
    under. -/
theorem verify_issued {secret other : String} {user : Claims} {ttl : Int} {issued now : ℚ}
    {token : List Char} (hkeys : (user.map Prod.fst).Nodup)
    (h : issue platform secret user ttl issued = some token)
    (hauthentic : Authentic platform other token) :
    verify platform other (some token) now =
      if now ≤ ((⌊issued⌋ + ttl : Int) : ℚ) then .session (issuedClaims user ttl issued)
      else .refused := by
  obtain ⟨bytes, hbytes, rfl⟩ := Option.map_eq_some_iff.mp h
  have hpoint : '.' ∉ platform.hexdigest secret (Base64.encode bytes) :=
    fun hmem => (ascii_hexdigest hmem).2 rfl
  obtain ⟨raw, signature, hsplit, hsame⟩ := hauthentic
  rw [splitLast_append hpoint] at hsplit
  obtain ⟨rfl, rfl⟩ := Prod.mk.inj (Option.some.inj hsplit)
  have hloads : platform.loads bytes = some (issuedClaims user ttl issued) :=
    platform.loads_dumps _ bytes (nodup_set hkeys) hbytes
  have hexp : (issuedClaims user ttl issued).lookup "exp" = some (.number (⌊issued⌋ + ttl)) :=
    lookup_set _ _ _
  have hexpired : expired (issuedClaims user ttl issued) now =
      some (decide (((⌊issued⌋ + ttl : Int) : ℚ) < now)) := by
    simp [expired, hexp]
  change verify platform other
    (some (Base64.encode bytes ++ '.' :: platform.hexdigest secret (Base64.encode bytes))) now = _
  unfold verify
  rw [Option.bind_some, splitLast_append hpoint]
  by_cases hlate : ((⌊issued⌋ + ttl : Int) : ℚ) < now
  · rw [if_neg (not_le.mpr hlate)]
    rw [decide_eq_true hlate] at hexpired
    simp [isAscii_hexdigest, hsame, isAscii_encode, Base64.decode_encode, hloads, hexpired]
  · rw [if_pos (not_lt.mp hlate)]
    rw [decide_eq_false hlate] at hexpired
    simp [isAscii_hexdigest, hsame, isAscii_encode, Base64.decode_encode, hloads, hexpired]

theorem authentic_of_issue {secret : String} {user : Claims} {ttl : Int} {issued : ℚ}
    {token : List Char} (h : issue platform secret user ttl issued = some token) :
    Authentic platform secret token := by
  obtain ⟨bytes, -, rfl⟩ := Option.map_eq_some_iff.mp h
  refine ⟨_, _, splitLast_append ?_, rfl⟩
  exact fun hmem => (ascii_hexdigest hmem).2 rfl

/-- **Round trip.**  What `issue` signs, `verify` gives back with its expiry, up to the very
    second the lifetime ends, and refuses afterwards. -/
theorem verify_issue {secret : String} {user : Claims} {ttl : Int} {issued now : ℚ}
    {token : List Char} (hkeys : (user.map Prod.fst).Nodup)
    (h : issue platform secret user ttl issued = some token) :
    verify platform secret (some token) now =
      if now ≤ ((⌊issued⌋ + ttl : Int) : ℚ) then .session (issuedClaims user ttl issued)
      else .refused :=
  verify_issued hkeys h (authentic_of_issue h)

/-! ### A platform -/

def Claim.ofValue : Value Empty → Option Claim
  | .int n => some (.number n)
  | .str value => some (.text value)
  | _ => none

/-- A reader of what `dumps` writes. -/
def plainLoads (bytes : List UInt8) : Option Claims :=
  match JsonText.read noReals (bytes.map fun byte => Char.ofNat byte.toNat) with
  | some (.obj fields) => fields.mapM fun field => (Claim.ofValue field.2).map (field.1, ·)
  | _ => none

theorem plainLoads_dumps {claims : Claims} {bytes : List UInt8} (h : dumps claims = some bytes) :
    plainLoads bytes = some claims := by
  unfold dumps at h
  split at h
  · rename_i hwritable
    cases h
    have hback : ∀ c : Char, c.toNat < 128 → Char.ofNat (UInt8.ofNat c.toNat).toNat = c := by
      intro c hc
      rw [UInt8.toNat_ofNat_of_lt' (Nat.lt_trans hc (by decide)), Char.ofNat_toNat]
    have hascii := JsonText.ascii_text noReals (fun x => x.elim) (document claims)
    have hchars : ((JsonText.text noReals (document claims)).map fun c =>
        UInt8.ofNat c.toNat).map (fun byte => Char.ofNat byte.toNat) =
        JsonText.text noReals (document claims) := by
      rw [List.map_map]
      exact (List.map_congr_left fun c hc => hback c (hascii c hc)).trans (List.map_id _)
    have hitems : ∀ claims : Claims, (claims.map fun claim => (claim.1, claim.2.toValue)).mapM
        (fun field => (Claim.ofValue field.2).map (field.1, ·)) = some claims := by
      intro claims
      induction claims with
      | nil => rfl
      | cons claim claims ih =>
        obtain ⟨key, claim⟩ := claim
        rw [List.map_cons, List.mapM_cons, ih]
        cases claim <;> rfl
    unfold plainLoads
    rw [hchars, JsonText.read_text noReals hwritable]
    exact hitems claims
  · cases h

/-- One hexadecimal digit stands for the digest. -/
def checksum (key : String) (message : List Char) : List Char :=
  [Nat.digitChar (((key.toList ++ message).map Char.toNat).sum % 16)]

def plain : Platform where
  hexdigest := checksum
  hex := by
    have hdigits : ∀ n < 16, Nat.digitChar n ∈ "0123456789abcdef".toList := by decide
    intro key message c hc
    rw [List.mem_singleton.mp hc]
    exact hdigits _ (Nat.mod_lt _ (by decide))
  loads := plainLoads
  loads_dumps := fun _ _ _ h => plainLoads_dumps h

/-- The token of a login at the start of the clock. -/
@[irreducible] def loginToken : List Char :=
  (issue plain "key" (stateClaims "st" "v") stateTtlS 0).getD []

theorem issue_loginToken :
    issue plain "key" (stateClaims "st" "v") stateTtlS 0 = some loginToken := by decide +kernel

/-- The token is good for ten minutes, and no second more. -/
theorem verify_loginToken :
    verify plain "key" (some loginToken) 600 =
      .session [("state", .text "st"), ("verifier", .text "v"), ("exp", .number 600)] ∧
    verify plain "key" (some loginToken) 601 = .refused := by
  have hkeys : ((stateClaims "st" "v").map Prod.fst).Nodup := by
    change ["state", "verifier"].Nodup
    decide
  constructor
  · rw [verify_issue hkeys issue_loginToken]
    decide +kernel
  · rw [verify_issue hkeys issue_loginToken]
    decide +kernel

/-! ### The claims that the server signs -/

@[simp] theorem userFromSession_user (user : User) (ttl : Int) (now : ℚ) :
    userFromSession (issuedClaims user.claims ttl now) = some user := rfl

@[simp] theorem userFromSession_state (state verifier : String) (ttl : Int) (now : ℚ) :
    userFromSession (issuedClaims (stateClaims state verifier) ttl now) = none := rfl

@[simp] theorem freshFromSession_user (settings : Settings) (user : User) (ttl : Int) (now : ℚ) :
    freshFromSession settings (issuedClaims user.claims ttl now) =
      if isAllowed settings user.username then
        some { user with role := roleFor settings user.username }
      else none := by
  have hname : (issuedClaims user.claims ttl now).text "username" = some user.username := rfl
  have hid : (issuedClaims user.claims ttl now).number "id" = some user.id := rfl
  have hdisplay : (issuedClaims user.claims ttl now).text "display_name" =
      some user.displayName := rfl
  unfold freshFromSession
  rw [hname, hid, hdisplay]
  split <;> simp_all [guard]

@[simp] theorem freshFromSession_state (settings : Settings) (state verifier : String)
    (ttl : Int) (now : ℚ) :
    freshFromSession settings (issuedClaims (stateClaims state verifier) ttl now) = none := rfl

@[simp] theorem text_state_user (user : User) (ttl : Int) (now : ℚ) :
    (issuedClaims user.claims ttl now).text "state" = none := rfl

@[simp] theorem text_state_state (state verifier : String) (ttl : Int) (now : ℚ) :
    (issuedClaims (stateClaims state verifier) ttl now).text "state" = some state := rfl

theorem nodup_user (user : User) : (user.claims.map Prod.fst).Nodup := by
  change ["id", "username", "display_name", "role"].Nodup
  decide

theorem nodup_state (state verifier : String) :
    ((stateClaims state verifier).map Prod.fst).Nodup := by
  change ["state", "verifier"].Nodup
  decide

/-! ### Runs -/

/-- The token that comes with an event. -/
def Event.token : Event → Option (List Char)
  | .callback token .. => token
  | .request _ token _ => token
  | _ => none

/-- Nobody presents a token that verifies and that the server has not put out. -/
def Unforged (platform : Platform) (events : List Event) : Prop :=
  ∀ before event after, events = before ++ event :: after →
    ∀ token, event.token = some token →
    ∀ settings, (server platform).run none before = some settings →
      Authentic platform settings.sessionSecret token →
      ∃ entry ∈ (server platform).trace none before, ∃ cookie,
        .setCookie cookie token ∈ entry.2

/-- A login with this state was begun, and its ten minutes are not over. -/
def Begun (past : List Event) (state : String) (now : ℚ) : Prop :=
  ∃ before verifier at' after, past = before ++ .login state verifier at' :: after ∧
    now ≤ ((⌊at'⌋ + stateTtlS : Int) : ℚ)

/-- A sign-in: who came, and what was checked. -/
structure Visit (platform : Platform) (past : List Event) (user : User) (now : ℚ) where
  before : List Event
  token : Option (List Char)
  code : String
  state : String
  info : UserInfo
  verifiedAt : ℚ
  issuedAt : ℚ
  after : List Event
  settings : Settings
  past_eq : past =
    before ++ .callback token code state (some info) user.id verifiedAt issuedAt :: after
  running : (server platform).run none before = some settings
  named : info.username = some user.username
  domain : domainOk settings info.email info.emailVerified = true
  allowed : isAllowed settings user.username = true
  role : user.role = roleFor settings user.username
  begun : Begun before state verifiedAt
  lasting : now ≤ ((⌊issuedAt⌋ + settings.sessionTtlS : Int) : ℚ)

/-- The user has signed in, and the lifetime of the session is not over. -/
def SignedIn (platform : Platform) (past : List Event) (user : User) (now : ℚ) : Prop :=
  Nonempty (Visit platform past user now)

/-- What a step that sets a cookie was. -/
theorem cookie_cases {running : Option Settings} {event : Event} {cookie : Cookie}
    {token : List Char} (h : .setCookie cookie token ∈ (step platform running event).2) :
    ∃ settings, running = some settings ∧
      ((∃ state verifier now, event = .login state verifier now ∧
        issue platform settings.sessionSecret (stateClaims state verifier) stateTtlS now =
          some token) ∨
      ∃ presented code state info userId verifiedAt issuedAt claims user,
        event = .callback presented code state info userId verifiedAt issuedAt ∧
        verify platform settings.sessionSecret presented verifiedAt = .session claims ∧
        claims.text "state" = some state ∧ signIn settings info userId = .ok user ∧
        issue platform settings.sessionSecret user.claims settings.sessionTtlS issuedAt =
          some token) := by
  cases running with
  | none => cases event <;> simp [step] at h
  | some settings =>
    refine ⟨settings, rfl, ?_⟩
    cases event with
    | start settings' => simp [step] at h
    | request endpoint presented readings => simp [step] at h
    | login state verifier now =>
      left
      simp only [step] at h
      split at h
      · simp at h
      · rename_i issued hissued
        simp only [List.mem_singleton, Effect.setCookie.injEq] at h
        exact ⟨state, verifier, now, rfl, h.2 ▸ hissued⟩
    | callback presented code state info userId verifiedAt issuedAt =>
      right
      simp only [step, callback] at h
      split at h
      · simp at h
      · simp at h
      · rename_i claims hclaims
        split at h
        · simp at h
        · rename_i hstate
          split at h
          · simp at h
          · split at h
            · simp at h
            · rename_i user huser
              split at h
              · simp at h
              · rename_i issued hissued
                simp only [List.mem_singleton, Effect.setCookie.injEq] at h
                exact ⟨presented, code, state, info, userId, verifiedAt, issuedAt, claims, user,
                  rfl, hclaims, not_not.mp (not_or.mp hstate).2, huser, h.2 ▸ hissued⟩

theorem signIn_ok {settings : Settings} {info : Option UserInfo} {userId : Int} {user : User}
    (h : signIn settings info userId = .ok user) :
    ∃ told, info = some told ∧ user.id = userId ∧ told.username = some user.username ∧
      domainOk settings told.email told.emailVerified = true ∧
      isAllowed settings user.username = true ∧
      user.role = roleFor settings user.username := by
  unfold signIn at h
  split at h
  · cases h
  · rename_i told
    split at h
    · rename_i hdomain
      split at h
      · cases h
      · rename_i username hname
        split at h
        · rename_i hallowed
          cases h
          exact ⟨told, rfl, rfl, hname, hdomain, hallowed, rfl⟩
        · cases h
    · cases h

/-- A token that the server put out was put out at a step of the run. -/
theorem put_out {past : List Event} {cookie : Cookie} {token : List Char}
    {entry : Event × List Effect} (hentry : entry ∈ (server platform).trace none past)
    (h : .setCookie cookie token ∈ entry.2) :
    ∃ before event after, past = before ++ event :: after ∧
      .setCookie cookie token ∈ (step platform ((server platform).run none before) event).2 := by
  obtain ⟨earlier, later, hcut⟩ := List.append_of_mem hentry
  obtain ⟨before, event, after, hpast, -, rfl⟩ := (server platform).exists_of_trace_eq hcut
  exact ⟨before, event, after, hpast, h⟩

/-- A token that verifies in an unforged run was put out for a login or to a user. -/
theorem session_cases {events : List Event} (hunforged : Unforged platform events)
    (past : List Event) {after : List Event} {event : Event}
    (hcut : events = past ++ event :: after) {settings : Settings}
    (hrunning : (server platform).run none past = some settings) {now : ℚ} {claims : Claims}
    (h : verify platform settings.sessionSecret event.token now = .session claims) :
    (∃ state verifier ttl issued, claims = issuedClaims (stateClaims state verifier) ttl issued ∧
      Begun past state now) ∨
    ∃ user ttl issued, claims = issuedClaims user.claims ttl issued ∧
      SignedIn platform past user now := by
  obtain ⟨token, htoken, hauthentic⟩ := authentic_of_verify h
  obtain ⟨entry, hentry, cookie, hcookie⟩ :=
    hunforged past event after hcut token htoken settings hrunning hauthentic
  obtain ⟨before, source, rest, hpast, hset⟩ := put_out hentry hcookie
  obtain ⟨then', hthen, hlogin | hcallback⟩ := cookie_cases hset
  · obtain ⟨state, verifier, at', rfl, hissue⟩ := hlogin
    rw [htoken, verify_issued (nodup_state state verifier) hissue hauthentic] at h
    split at h
    · rename_i hlasting
      cases h
      exact Or.inl ⟨state, verifier, stateTtlS, at', rfl, before, verifier, at', rest, hpast,
        hlasting⟩
    · cases h
  · obtain ⟨presented, code, state, info, userId, verifiedAt, issuedAt, stashed, user, rfl,
      hstashed, hstate, hsignIn, hissue⟩ := hcallback
    obtain ⟨told, rfl, rfl, hnamed, hdomain, hallowed, hrole⟩ := signIn_ok hsignIn
    rw [htoken, verify_issued (nodup_user user) hissue hauthentic] at h
    split at h
    · rename_i hlasting
      cases h
      -- the login that the callback belongs to came before the callback
      have hshorter : before.length < past.length := by
        rw [hpast, List.length_append, List.length_cons]
        omega
      have hearlier : events = before ++
          .callback presented code state (some told) user.id verifiedAt issuedAt ::
            (rest ++ event :: after) := by
        rw [hcut, hpast]
        simp
      have hbegun : Begun before state verifiedAt := by
        rcases session_cases hunforged before hearlier hthen hstashed with
          ⟨state', verifier, ttl, issued, rfl, hbegun⟩ | ⟨other, ttl, issued, rfl, -⟩
        · cases hstate
          exact hbegun
        · cases hstate
      exact Or.inr ⟨user, then'.sessionTtlS, issuedAt, rfl,
        ⟨before, presented, code, state, told, verifiedAt, issuedAt, rest, then', hpast, hthen,
          hnamed, hdomain, hallowed, hrole, hbegun, hlasting⟩⟩
    · cases h
termination_by past.length

/-- Whom a request may be served to. -/
def Entitled (platform : Platform) (past : List Event) (settings : Settings)
    (readings : Readings) (who : Option User) : Endpoint → Prop
  | .free => True
  | .bare => (∃ state, Begun past state readings.gate) ∨
      ∃ user, SignedIn platform past user readings.gate
  | .user => ∃ user, who = some user ∧ SignedIn platform past user readings.user
  | .operator => ∃ user, who = some user ∧ SignedIn platform past user readings.user ∧
      user.canCommand = true
  | .administrator => ∃ user, who = some user ∧ SignedIn platform past user readings.user ∧
      user.isAdministrator = true
  | .tuningRead => ∃ user, SignedIn platform past user readings.fresh ∧
      isAllowed settings user.username = true ∧
      who = some { user with role := roleFor settings user.username }
  | .tuningChange => ∃ user, SignedIn platform past user readings.fresh ∧
      isAllowed settings user.username = true ∧
      roleFor settings user.username = "administrator" ∧
      who = some { user with role := "administrator" }
  | .socket origin => originAllowed settings origin = true ∧
      ∃ user, who = some user ∧ SignedIn platform past user readings.user

section

variable {events past after : List Event} {endpoint : Endpoint} {token : Option (List Char)}
variable {readings : Readings} {settings : Settings}

/-- The current user is one who has signed in. -/
theorem signedIn_of_currentUser (hunforged : Unforged platform events)
    (hcut : events = past ++ .request endpoint token readings :: after)
    (hrunning : (server platform).run none past = some settings)
    (hmode : settings.authMode = "oidc") {now : ℚ} {user : User}
    (h : currentUser platform settings token now = .ok user) :
    SignedIn platform past user now := by
  unfold currentUser at h
  rw [if_neg (not_not.mpr hmode)] at h
  split at h
  · cases h
  · cases h
  · rename_i claims hverify
    rcases session_cases hunforged past hcut hrunning hverify with
      ⟨state, verifier, ttl, issued, rfl, -⟩ | ⟨signed, ttl, issued, rfl, hsigned⟩
    · cases h
    · rw [userFromSession_user] at h
      cases h
      exact hsigned

/-- The user of a tuning endpoint has signed in, and is allowed and ranked as of today. -/
theorem signedIn_of_tuningUser (hunforged : Unforged platform events)
    (hcut : events = past ++ .request endpoint token readings :: after)
    (hrunning : (server platform).run none past = some settings)
    (hmode : settings.authMode = "oidc") {user : User}
    (h : tuningUser platform settings token readings = .ok user) :
    ∃ former, SignedIn platform past former readings.fresh ∧
      isAllowed settings former.username = true ∧
      user = { former with role := roleFor settings former.username } := by
  unfold tuningUser at h
  cases hcurrent : currentUser platform settings token readings.user with
  | error status => simp [hcurrent, bind, Except.bind] at h
  | ok current =>
    simp only [hcurrent, bind, Except.bind, if_neg (not_not.mpr hmode)] at h
    split at h
    · cases h
    · cases h
    · rename_i claims hverify
      rcases session_cases hunforged past hcut hrunning hverify with
        ⟨state, verifier, ttl, issued, rfl, -⟩ | ⟨former, ttl, issued, rfl, hsigned⟩
      · cases h
      · rw [freshFromSession_user] at h
        by_cases hallowed : isAllowed settings former.username = true
        · rw [if_pos hallowed] at h
          cases h
          exact ⟨former, hsigned, hallowed, rfl⟩
        · rw [if_neg hallowed] at h
          cases h

theorem served_iff {who : Option User} :
    answer platform settings endpoint token readings = .served who ↔
      authorize platform settings endpoint token readings = .ok who := by
  unfold answer
  split <;> simp_all

/-- What the middleware lets through. -/
theorem authorize_ok {who : Option User} (hsocket : ∀ origin, endpoint ≠ .socket origin)
    (hfree : endpoint ≠ .free)
    (h : authorize platform settings endpoint token readings = .ok who) :
    requireSession platform settings token readings.gate = .ok () ∧
      depend platform settings endpoint token readings = .ok who := by
  have hguarded : authorize platform settings endpoint token readings =
      (requireSession platform settings token readings.gate >>= fun _ =>
        depend platform settings endpoint token readings) := by
    cases endpoint with
    | free => exact absurd rfl hfree
    | socket origin => exact absurd rfl (hsocket origin)
    | _ => rfl
  rw [hguarded] at h
  cases hsession : requireSession platform settings token readings.gate with
  | error status => simp [hsession, bind, Except.bind] at h
  | ok passed => exact ⟨rfl, by simpa [hsession, bind, Except.bind] using h⟩

/-- A dependency on a user, and on more than that. -/
theorem ok_of_guarded {found : Except Nat User} {allowed : User → Bool} {who : Option User}
    (h : (do
      let user ← found
      if allowed user then pure (some user) else .error 403) = Except.ok who) :
    ∃ user, found = .ok user ∧ who = some user ∧ allowed user = true := by
  cases found with
  | error status => cases h
  | ok user =>
    simp only [bind, Except.bind] at h
    split at h
    · rename_i hallowed
      cases h
      exact ⟨user, rfl, rfl, hallowed⟩
    · cases h

theorem ok_of_map {found : Except Nat User} {who : Option User}
    (h : found.map some = .ok who) : ∃ user, found = .ok user ∧ who = some user := by
  cases found with
  | error status => cases h
  | ok user =>
    cases h
    exact ⟨user, rfl, rfl⟩

/-- Whoever is nobody is served where no user is asked for, and nowhere else. -/
theorem served_of_nobody
    (hnobody : ∀ user, currentUser platform settings token readings.user ≠ .ok user) :
    (∃ who, answer platform settings endpoint token readings = .served who) ↔
      endpoint = .free ∨
        endpoint = .bare ∧ requireSession platform settings token readings.gate = .ok () := by
  have hnotuning : ∀ user, tuningUser platform settings token readings ≠ .ok user := by
    intro user hok
    unfold tuningUser at hok
    cases hcurrent : currentUser platform settings token readings.user with
    | error status => simp [hcurrent, bind, Except.bind] at hok
    | ok current => exact hnobody current hcurrent
  simp only [served_iff]
  constructor
  · rintro ⟨who, h⟩
    cases endpoint with
    | free => exact Or.inl rfl
    | bare => exact Or.inr ⟨rfl, (authorize_ok (by simp) (by simp) h).1⟩
    | user =>
      obtain ⟨user, hok, -⟩ := ok_of_map (authorize_ok (by simp) (by simp) h).2
      exact absurd hok (hnobody user)
    | operator =>
      obtain ⟨user, hok, -⟩ := ok_of_guarded (authorize_ok (by simp) (by simp) h).2
      exact absurd hok (hnobody user)
    | administrator =>
      obtain ⟨user, hok, -⟩ := ok_of_guarded (authorize_ok (by simp) (by simp) h).2
      exact absurd hok (hnobody user)
    | tuningRead =>
      obtain ⟨user, hok, -⟩ := ok_of_map (authorize_ok (by simp) (by simp) h).2
      exact absurd hok (hnotuning user)
    | tuningChange =>
      obtain ⟨user, hok, -⟩ := ok_of_guarded (authorize_ok (by simp) (by simp) h).2
      exact absurd hok (hnotuning user)
    | socket origin =>
      simp only [authorize] at h
      split at h
      · split at h
        · rename_i user hok
          exact absurd hok (hnobody user)
        · cases h
      · cases h
  · rintro (rfl | ⟨rfl, hsession⟩)
    · exact ⟨none, rfl⟩
    · refine ⟨none, ?_⟩
      simp only [authorize, hsession, bind, Except.bind]
      rfl

end

/-- **Authority.**  In every run without forged tokens, whoever is served signed in: through a
    login begun at most ten minutes before, with an address of the domain and a name on the
    list, and within the lifetime of the session.  The tuning endpoints ask for the list and
    the roles of today; the endpoints that ask for no user are served to a login under way,
    too. -/
theorem authority_run {events : List Event} (hunforged : Unforged platform events)
    {past after : List Event} {endpoint : Endpoint} {token : Option (List Char)}
    {readings : Readings} (hcut : events = past ++ .request endpoint token readings :: after)
    {settings : Settings} (hrunning : (server platform).run none past = some settings)
    (hmode : settings.authMode = "oidc") {who : Option User}
    (h : answer platform settings endpoint token readings = .served who) :
    Entitled platform past settings readings who endpoint := by
  rw [served_iff] at h
  have hcurrent : ∀ {user}, currentUser platform settings token readings.user = .ok user →
      SignedIn platform past user readings.user :=
    fun hok => signedIn_of_currentUser hunforged hcut hrunning hmode hok
  cases endpoint with
  | free => trivial
  | bare =>
    obtain ⟨hsession, -⟩ := authorize_ok (by simp) (by simp) h
    unfold requireSession at hsession
    rw [if_neg (not_not.mpr hmode)] at hsession
    split at hsession
    · cases hsession
    · cases hsession
    · rename_i claims hverify
      rcases session_cases hunforged past hcut hrunning hverify with
        ⟨state, verifier, ttl, issued, -, hbegun⟩ | ⟨user, ttl, issued, -, hsigned⟩
      · exact Or.inl ⟨state, hbegun⟩
      · exact Or.inr ⟨user, hsigned⟩
  | user =>
    obtain ⟨user, hok, hwho⟩ := ok_of_map (authorize_ok (by simp) (by simp) h).2
    exact ⟨user, hwho, hcurrent hok⟩
  | operator =>
    obtain ⟨user, hok, hwho, hrights⟩ := ok_of_guarded (authorize_ok (by simp) (by simp) h).2
    exact ⟨user, hwho, hcurrent hok, hrights⟩
  | administrator =>
    obtain ⟨user, hok, hwho, hrights⟩ := ok_of_guarded (authorize_ok (by simp) (by simp) h).2
    exact ⟨user, hwho, hcurrent hok, hrights⟩
  | tuningRead =>
    obtain ⟨user, hok, hwho⟩ := ok_of_map (authorize_ok (by simp) (by simp) h).2
    obtain ⟨former, hsigned, hallowed, rfl⟩ :=
      signedIn_of_tuningUser hunforged hcut hrunning hmode hok
    exact ⟨former, hsigned, hallowed, hwho⟩
  | tuningChange =>
    obtain ⟨user, hok, hwho, hrights⟩ := ok_of_guarded (authorize_ok (by simp) (by simp) h).2
    obtain ⟨former, hsigned, hallowed, rfl⟩ :=
      signedIn_of_tuningUser hunforged hcut hrunning hmode hok
    have hrole : roleFor settings former.username = "administrator" := by
      simpa [User.isAdministrator] using hrights
    exact ⟨former, hsigned, hallowed, hrole, hrole ▸ hwho⟩
  | socket origin =>
    simp only [authorize] at h
    split at h
    · rename_i horigin
      split at h
      · rename_i user hok
        cases h
        exact ⟨horigin, user, rfl, hcurrent hok⟩
      · cases h
    · cases h

/-- A production server whose list of domains and list of names are blank. -/
def blankSettings : Settings where
  authMode := "oidc"
  oidcIssuer := "https://idp"
  oidcClientId := "dashboard"
  oidcClientSecret := "s"
  oidcRedirectUrl := "https://dash/auth/callback"
  oidcEmailDomain := " "
  allowedUsernames := ","
  operatorUsernames := "ada"
  sessionSecret := "key"
  allowedOrigins := "https://dash"
  robotToken := "robot"
  environment := "production"

def ada : User := ⟨7, "ada", "ada", "operator"⟩

/-- Ada begins a login and comes back from the provider. -/
def adaArrives : List Event :=
  [.start blankSettings, .login "st" "v" 0,
    .callback (some loginToken) "c" "st" (some ⟨some "Ada@x", .other, none, none, none⟩) 7 1 1]

@[irreducible] def adaToken : List Char :=
  (issue plain "key" ada.claims blankSettings.sessionTtlS 1).getD []

theorem trace_adaArrives :
    (server plain).trace none adaArrives =
      [(.start blankSettings, []), (.login "st" "v" 0, [.setCookie .oidc loginToken]),
        (.callback (some loginToken) "c" "st" (some ⟨some "Ada@x", .other, none, none, none⟩) 7
          1 1, [.setCookie .session adaToken])] := by decide +kernel

theorem unforged_adaArrives (endpoint : Endpoint) (readings : Readings) :
    Unforged plain (adaArrives ++ [.request endpoint (some adaToken) readings]) := by
  intro before event after hcut token htoken settings _ _
  have htrace := trace_adaArrives
  simp only [adaArrives, Machine.trace_cons, List.cons.injEq, Prod.mk.injEq] at htrace
  obtain ⟨⟨-, hstart⟩, ⟨-, hlogin⟩, ⟨-, hcallback⟩, -⟩ := htrace
  rcases before with _ | ⟨first, _ | ⟨second, _ | ⟨third, _ | ⟨fourth, rest⟩⟩⟩⟩
  · cases hcut
    cases htoken
  · cases hcut
    cases htoken
  · cases hcut
    cases htoken
    refine ⟨_, List.mem_cons_of_mem _ List.mem_cons_self, .oidc, ?_⟩
    rw [hlogin]
    exact List.mem_singleton_self _
  · cases hcut
    cases htoken
    refine ⟨_, List.mem_cons_of_mem _ (List.mem_cons_of_mem _ List.mem_cons_self), .session, ?_⟩
    rw [hcallback]
    exact List.mem_singleton_self _
  · simp [adaArrives] at hcut

/-- Ada starts a recording. -/
theorem authority_run_ada :
    Entitled plain adaArrives blankSettings ⟨2, 2, 2⟩ (some ada) .operator :=
  authority_run (unforged_adaArrives .operator ⟨2, 2, 2⟩) rfl (by decide +kernel) rfl
    (by decide +kernel : answer plain blankSettings .operator (some adaToken) ⟨2, 2, 2⟩ =
      .served (some ada))

/-- The secret is that of the last start. -/
theorem secret_run {secret : String} {running : Option Settings} {events : List Event}
    (hrunning : ∀ settings, running = some settings → settings.sessionSecret = secret)
    (hstarts : ∀ event ∈ events, ∀ settings, event = .start settings →
      settings.sessionSecret = secret) :
    ∀ settings, (server platform).run running events = some settings →
      settings.sessionSecret = secret := by
  refine (server platform).invariant
    (fun running => ∀ settings, running = some settings → settings.sessionSecret = secret)
    ?_ hrunning ((server platform).along_of_mem hstarts)
  intro running event hevent h settings hstep
  cases event with
  | start settings' =>
    simp only [server, step] at hstep
    split at hstep
    · cases hstep
      exact hevent settings rfl
    · cases hstep
  | _ =>
    cases running with
    | none => cases hstep
    | some former => exact h settings hstep

/-- **A login under way.**  The cookie of a login that nobody has finished, sent as the
    session cookie, opens exactly the endpoints that ask for no user, for ten minutes, however
    the server is started again with its secret: an account is not needed for it. -/
theorem visitor_run {past later : List Event} {state verifier : String} {issued : ℚ}
    {token : List Char} {settings settings' : Settings}
    (hthen : (server platform).run none past = some settings)
    (hset : .setCookie .oidc token ∈ ((server platform).step
      ((server platform).run none past) (.login state verifier issued)).2)
    (hlater : ∀ event ∈ later, ∀ restarted, event = .start restarted →
      restarted.sessionSecret = settings.sessionSecret)
    (hnow : (server platform).run none (past ++ .login state verifier issued :: later) =
      some settings')
    (hmode : settings'.authMode = "oidc") (endpoint : Endpoint) (readings : Readings) :
    (∃ who, answer platform settings' endpoint (some token) readings = .served who) ↔
      endpoint = .free ∨
        endpoint = .bare ∧ readings.gate ≤ ((⌊issued⌋ + stateTtlS : Int) : ℚ) := by
  rw [hthen] at hset
  have hsecret : settings'.sessionSecret = settings.sessionSecret := by
    rw [Machine.run_append, hthen] at hnow
    refine @secret_run platform _ (some settings) (.login state verifier issued :: later) ?_ ?_
      settings' hnow
    · rintro _ ⟨⟩
      rfl
    · intro event hevent restarted hstart
      rcases List.mem_cons.mp hevent with rfl | hevent
      · cases hstart
      · exact hlater event hevent restarted hstart
  obtain ⟨_, hsome, hcookie⟩ := cookie_cases hset
  cases hsome
  have hissue : issue platform settings.sessionSecret (stateClaims state verifier) stateTtlS
      issued = some token := by
    rcases hcookie with ⟨_, _, _, heq, hissue⟩ | ⟨_, _, _, _, _, _, _, _, _, heq, -⟩
    · cases heq
      exact hissue
    · cases heq
  have hverify : ∀ now, verify platform settings'.sessionSecret (some token) now =
      if now ≤ ((⌊issued⌋ + stateTtlS : Int) : ℚ) then
        .session (issuedClaims (stateClaims state verifier) stateTtlS issued)
      else .refused := by
    intro now
    rw [hsecret]
    exact verify_issue (nodup_state state verifier) hissue
  have hnobody : ∀ user, currentUser platform settings' (some token) readings.user ≠ .ok user := by
    intro user hok
    unfold currentUser at hok
    rw [if_neg (not_not.mpr hmode), hverify] at hok
    split at hok
    · cases hok
    · cases hok
    · rename_i claims hclaims
      split at hclaims
      · cases hclaims
        cases hok
      · cases hclaims
  have hsession : requireSession platform settings' (some token) readings.gate = .ok () ↔
      readings.gate ≤ ((⌊issued⌋ + stateTtlS : Int) : ℚ) := by
    unfold requireSession
    rw [if_neg (not_not.mpr hmode), hverify]
    by_cases hlasting : readings.gate ≤ ((⌊issued⌋ + stateTtlS : Int) : ℚ)
    · rw [if_pos hlasting]
      exact ⟨fun _ => hlasting, fun _ => rfl⟩
    · rw [if_neg hlasting]
      exact ⟨nofun, fun h => absurd h hlasting⟩
  rw [served_of_nobody hnobody, hsession]

/-- A stranger reads the snapshot at the end of the ten minutes. -/
theorem visitor_run_stranger :
    ∃ who, answer plain blankSettings .bare (some loginToken) ⟨600, 0, 0⟩ = .served who := by
  have hthen : (server plain).run none [.start blankSettings] = some blankSettings := by
    decide +kernel
  have hset : .setCookie .oidc loginToken ∈ ((server plain).step
      ((server plain).run none [.start blankSettings]) (.login "st" "v" 0)).2 := by
    decide +kernel
  have hnow : (server plain).run none ([.start blankSettings] ++ [.login "st" "v" 0]) =
      some blankSettings := by
    decide +kernel
  have hbare := visitor_run hthen hset (by simp) hnow rfl .bare ⟨600, 0, 0⟩
  exact hbare.mpr (Or.inr ⟨rfl, by decide +kernel⟩)

/-! ### Starting in production -/

theorem restricted_of_domain {settings : Settings} (h : lower (strip settings.oidcEmailDomain) ≠ "")
    {info : UserInfo} {userId : Int} {user : User}
    (hsignIn : signIn settings (some info) userId = .ok user) :
    ∃ email, info.email = some email ∧ info.emailVerified.holds = true ∧
      ("@" ++ lower (strip settings.oidcEmailDomain)).toList <:+ (lower (strip email)).toList := by
  obtain ⟨told, heq, -, -, hdomain, -⟩ := signIn_ok hsignIn
  cases heq
  unfold domainOk at hdomain
  rw [if_neg h] at hdomain
  split at hdomain
  · cases hdomain
  · rename_i email hemail
    rw [Bool.and_eq_true, decide_eq_true_eq] at hdomain
    exact ⟨email, (Option.filter_eq_some_iff.mp hemail).1, hdomain⟩

/-- There is always a name that is on no list. -/
theorem exists_unlisted (listed : List String) :
    ∃ name, name ∉ listed ∧
      UserInfo.username ⟨none, .other, none, some name, none⟩ = some name := by
  let name := String.ofList (List.replicate ((listed.map String.length).sum + 1) 'a')
  refine ⟨name, ?_, ?_⟩
  · intro hmem
    have hle := List.single_le_sum (by simp) _ (List.mem_map_of_mem (f := String.length) hmem)
    have hlength : name.length = (listed.map String.length).sum + 1 := by simp [name]
    omega
  · have hlower : lower name = name := by
      apply String.toList_injective
      simp [lower, name]
    simpa [UserInfo.username, nonempty, name] using hlower

/-- **Starting in production.**  A production server that starts asks for the provider, and its
    secrets are not the defaults.  It still lets everybody sign in exactly when both the domain
    and the list of names are blank: what the check rejects are empty texts only. -/
theorem production_start {settings : Settings} (hstart : settings.problems = [])
    (hproduction : settings.isProduction = true) :
    (settings.authMode = "oidc" ∧ settings.sessionSecret ≠ "dev-session-secret" ∧
      settings.robotToken ≠ "dev-token" ∧ settings.allowedOrigins ≠ "") ∧
    ((∀ info userId, info.username.isSome → ∃ user, signIn settings (some info) userId = .ok user) ↔
      lower (strip settings.oidcEmailDomain) = "" ∧ names settings.allowedUsernames = []) := by
  constructor
  · simp only [Settings.problems, hproduction, if_true, List.append_eq_nil_iff] at hstart
    obtain ⟨⟨⟨⟨⟨⟨hmode, hsecret⟩, hrobot⟩, -⟩, -⟩, horigins⟩, -⟩ := hstart
    simp only [ite_eq_right_iff, List.cons_ne_nil, imp_false, not_not, not_or] at hmode hsecret
    simp only [ite_eq_right_iff, List.cons_ne_nil, imp_false, not_or] at hrobot horigins
    exact ⟨hmode, hsecret.1, hrobot.1, horigins⟩
  · constructor
    · intro hopen
      constructor
      · by_contra hdomain
        obtain ⟨user, hsignIn⟩ := hopen ⟨none, .other, none, some "a", none⟩ 1 rfl
        obtain ⟨email, hemail, -⟩ := restricted_of_domain hdomain hsignIn
        cases hemail
      · by_contra hlisted
        obtain ⟨name, hname, hplain⟩ := exists_unlisted (names settings.allowedUsernames)
        obtain ⟨user, hsignIn⟩ := hopen ⟨none, .other, none, some name, none⟩ 1 rfl
        obtain ⟨told, heq, -, hnamed, -, hallowed, -⟩ := signIn_ok hsignIn
        cases heq
        cases hplain.symm.trans hnamed
        simp [isAllowed, hlisted, hname] at hallowed
    · rintro ⟨hdomain, hallowed⟩ info userId hnamed
      obtain ⟨username, hname⟩ := Option.isSome_iff_exists.mp hnamed
      refine ⟨⟨userId, username, (nonempty info.name).getD username,
        roleFor settings username⟩, ?_⟩
      unfold signIn
      simp only [domainOk, hdomain, if_true, hname, isAllowed, hallowed, decide_true,
        Bool.true_or]

/-- Under the blank lists everybody signs in. -/
theorem production_start_blank :
    blankSettings.sessionSecret ≠ "dev-session-secret" ∧
      ∀ info userId, info.username.isSome →
        ∃ user, signIn blankSettings (some info) userId = .ok user := by
  have hstart : blankSettings.problems = [] := by decide +kernel
  have hproduction : blankSettings.isProduction = true := by decide +kernel
  obtain ⟨⟨-, hsecret, -⟩, hopen⟩ := production_start hstart hproduction
  exact ⟨hsecret, hopen.mpr ⟨by decide +kernel, by decide +kernel⟩⟩

end PatrolBot.SignIn
