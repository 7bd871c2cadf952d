import Mathlib.Algebra.Order.Ring.Rat
import Mathlib.Tactic.Linarith
import Aidlc.Storage.Artifacts
import Aidlc.Tools.Analysis

/-! # Signing keys of the identity provider

Calls that verify a token share a cache of keys and a lock. Whoever holds the lock
reads the age of the cache and fetches the keys anew where that age or the key asked
for says so; only a refresh that succeeded sets the time the age is counted from.
-/

namespace Aidlc

open Foundation

/-! ## Requests to the provider -/

/-- What may go wrong with a refresh; everything but an attribute error is handled. -/
inductive KeyFault where
  | http | jwt | value | key | type | attribute
  deriving DecidableEq

/-- The answer to a request: none, or a status and a body that may be JSON. -/
inductive HttpAnswer where
  | unreachable
  | answered (status : Nat) (body : Option Json)

/-- `raise_for_status` and `json`. -/
def HttpAnswer.json : HttpAnswer → Except KeyFault Json
  | .unreachable => .error .http
  | .answered status body =>
    if 200 ≤ status ∧ status < 300 then
      match body with
      | some value => .ok value
      | none => .error .value
    else .error .http

/-- The parts of a URL that are looked at. -/
structure SplitUrl where
  scheme : String
  hostname : Option String
  username : Option String
  password : Option String
  query : String
  fragment : String

/-- A key of the provider's set. -/
structure PyJwk where
  keyId : Option String
  algorithmName : Option String
  publicKeyUse : Option String
  material : Json

/-- What the verifier uses of other libraries: reading the header of a token, checking
and reading a token with a key for an issuer and an audience at a time of day, reading a
set of keys, and taking a URL apart. -/
structure TokenLibrary where
  header : String → Option (List (String × Json))
  decode : String → Json → String → String → Rat → Option (List (String × Json))
  keySet : Json → Except KeyFault (List PyJwk)
  urlsplit : String → Option SplitUrl

structure VerifierSettings where
  issuer : String
  resource : String
  cacheSeconds : Rat

variable (library : TokenLibrary) (settings : VerifierSettings)

/-- `validate_service_url`, without the slashes it cuts off at the end. -/
def validateServiceUrl (value : String) : Except KeyFault String :=
  match library.urlsplit value with
  | none => .error .value
  | some parsed =>
    if !(parsed.scheme ∈ ["http", "https"]) || parsed.hostname.all (· == "") ||
        parsed.username.isSome || parsed.password.isSome || parsed.query != "" ||
        parsed.fragment != "" ||
        (parsed.scheme == "http" &&
          !(parsed.hostname ∈ [some "127.0.0.1", some "localhost", some "::1"])) then
      .error .value
    else .ok (String.ofList (value.toList.reverse.dropWhile (· == '/')).reverse)

/-- `discover_oidc` -/
def discoverOidc (issuer : String) (answer : HttpAnswer) : Except KeyFault Json :=
  match answer.json with
  | .error fault => .error fault
  | .ok metadata =>
    if metadata.get? "issuer" = some (.str issuer) then .ok metadata else .error .value

/-- `validate_service_url(metadata["jwks_uri"])`. Lists and objects cannot be hashed for the
cache of `urlsplit`; what else is no text has no `decode`, or counts as the empty text. -/
def jwksUrl (metadata : Json) : Except KeyFault String :=
  match metadata.get? "jwks_uri" with
  | none => .error .key
  | some (.str url) => validateServiceUrl library url
  | some (.arr _) | some (.obj _) => .error .type
  | some other => .error (if Json.truthy (some other) then .attribute else .value)

/-- Where the keys are, from the answer to the discovery request. -/
def discovered (answer : HttpAnswer) : Except KeyFault String :=
  match discoverOidc settings.issuer answer with
  | .error fault => .error fault
  | .ok metadata => jwksUrl library metadata

/-- The keys for signatures. -/
def PyJwk.usable (key : PyJwk) : Bool :=
  key.keyId.any (· != "") && key.algorithmName == some "RS256" && key.publicKeyUse == some "sig"

/-- The keys of the answer to the second request. -/
def fetched (answer : HttpAnswer) : Except KeyFault (List PyJwk) :=
  match answer.json with
  | .error fault => .error fault
  | .ok value =>
    match library.keySet value with
    | .error fault => .error fault
    | .ok keys => .ok (keys.filter PyJwk.usable)

/-! ## Tokens -/

/-- `str.split` -/
def splitWords (text : String) : List String :=
  ((text.toList.splitOnP fun c => c ∈ whitespace).filter fun word => !word.isEmpty).map
    String.ofList

def isBlankText (text : String) : Bool := text.toList.all fun c => c ∈ whitespace

/-- The name is absent or has an integer. -/
def intOrAbsent (claims : List (String × Json)) (name : String) : Bool :=
  match claims.lookup name with
  | none => true
  | some (.int _) => true
  | some _ => false

/-- What `verify_token` returns once it has a key, at a time of day. -/
def accessToken (token : String) (header : List (String × Json)) (key : PyJwk) (clock : Rat) :
    Option AccessToken :=
  match library.decode token key.material settings.issuer settings.resource clock with
  | none => none
  | some claims =>
    if claims.lookup "typ" ≠ some (.str "Bearer") ∧
        header.lookup "typ" ≠ some (.str "at+jwt") then none
    else if !(["exp", "iat", "nbf"].all (intOrAbsent claims)) then none
    else
      match claims.lookup "sub", claims.lookup "azp", (claims.lookup "scope").getD (.str ""),
        claims.lookup "exp" with
      | some (.str subject), some (.str clientId), .str scopes, some (.int expiresAt) =>
        if isBlankText subject || isBlankText clientId then none
        else some {
          clientId
          issuer := some settings.issuer
          subject := some subject
          scopes := splitWords scopes
          expiresAt := some expiresAt }
      | _, _, _, _ => none

/-- The header of a token worth a key, and the key it names. -/
def acceptedHeader (token : String) : Option (List (String × Json) × String) :=
  if 16384 < token.length then none
  else
    match library.header token with
    | none => none
    | some header =>
      match header.lookup "alg", header.lookup "kid" with
      | some (.str alg), some (.str kid) =>
        if alg = "RS256" ∧ kid ≠ "" then some (header, kid) else none
      | _, _ => none

/-! ## The verifier -/

/-- What a call is about. -/
structure TokenCall where
  token : String
  header : List (String × Json)
  kid : String

/-- The coroutine of a call: waiting for the lock, waiting for one of the two answers,
or done. -/
inductive VerifyCall where
  | idle
  | waiting (call : TokenCall)
  | discovering (call : TokenCall)
  | fetching (call : TokenCall) (url : String)
  | ended (outcome : Except KeyFault (Option AccessToken))
  | canceled

/-- What happened with keys: a refresh began, a refresh ended, with the keys if it
succeeded, or a token was verified with a key. -/
inductive KeyEvent where
  | started (id : CallId) (time : Rat)
  | ended (id : CallId) (time : Rat) (keys : Option (List PyJwk))
  | verified (id : CallId) (time : Rat) (key : PyJwk) (access : AccessToken)

structure TokenVerifier where
  keys : List PyJwk
  refreshedAt : Option Rat
  locked : Bool
  calls : CallId → VerifyCall
  now : Rat
  log : List KeyEvent

namespace TokenVerifier

def start : TokenVerifier := ⟨[], none, false, fun _ => .idle, 0, []⟩

/-- `self._keys.get(kid)`: of two keys with one identifier the later one is kept. -/
def get (verifier : TokenVerifier) (kid : String) : Option PyJwk :=
  verifier.keys.reverse.find? fun key => key.keyId == some kid

def setCall (verifier : TokenVerifier) (id : CallId) (call : VerifyCall) : TokenVerifier :=
  { verifier with calls := fun other => if other = id then call else verifier.calls other }

def record (verifier : TokenVerifier) (event : KeyEvent) : TokenVerifier :=
  { verifier with log := verifier.log ++ [event] }

/-- Whether the cache is too old, or old enough for a key it does not have. -/
def mustRefresh (verifier : TokenVerifier) (cacheSeconds : Rat) (kid : String) : Bool :=
  match verifier.refreshedAt with
  | none => true
  | some refreshedAt =>
    decide (cacheSeconds ≤ verifier.now - refreshedAt) ||
      (verifier.get kid).isNone && decide (2 ≤ verifier.now - refreshedAt)

/-- A refresh raises: the lock is released, and only an attribute error escapes. -/
def fail (verifier : TokenVerifier) (id : CallId) (fault : KeyFault) : TokenVerifier :=
  ({ verifier with locked := false }.record (.ended id verifier.now none)).setCall id
    (.ended (if fault = KeyFault.attribute then .error fault else .ok none))

end TokenVerifier

/-- The rest of a call from the key of the cache on. -/
def finish (verifier : TokenVerifier) (id : CallId) (call : TokenCall) (clock : Rat) :
    TokenVerifier :=
  match verifier.get call.kid with
  | none => verifier.setCall id (.ended (.ok none))
  | some key =>
    match accessToken library settings call.token call.header key clock with
    | none => verifier.setCall id (.ended (.ok none))
    | some access =>
      (verifier.record (.verified id verifier.now key access)).setCall id
        (.ended (.ok (some access)))

/-- What happens next at the verifier. The time of day has no bearing on its own clock. -/
inductive KeyLabel where
  | verify (id : CallId) (token : String)
  | acquire (id : CallId) (clock : Rat)
  | discover (id : CallId) (answer : HttpAnswer)
  | fetch (id : CallId) (answer : HttpAnswer) (clock : Rat)
  | cancel (id : CallId)
  | wait (seconds : Rat)

def tokenVerifier : System TokenVerifier KeyLabel where
  step verifier
    | .verify id token =>
      match verifier.calls id with
      | .idle =>
        match acceptedHeader library token with
        | none => some (verifier.setCall id (.ended (.ok none)))
        | some (header, kid) => some (verifier.setCall id (.waiting ⟨token, header, kid⟩))
      | _ => none
    | .acquire id clock =>
      match verifier.calls id with
      | .waiting call =>
        if verifier.locked then none
        else if verifier.mustRefresh settings.cacheSeconds call.kid then
          some (({ verifier with locked := true }.record (.started id verifier.now)).setCall id
            (.discovering call))
        else some (finish library settings verifier id call clock)
      | _ => none
    | .discover id answer =>
      match verifier.calls id with
      | .discovering call =>
        match discovered library settings answer with
        | .error fault => some (verifier.fail id fault)
        | .ok url => some (verifier.setCall id (.fetching call url))
      | _ => none
    | .fetch id answer clock =>
      match verifier.calls id with
      | .fetching call _ =>
        match fetched library answer with
        | .error fault => some (verifier.fail id fault)
        | .ok keys =>
          some (finish library settings
            ({ verifier with keys, refreshedAt := some verifier.now, locked := false }.record
              (.ended id verifier.now (some keys))) id call clock)
      | _ => none
    | .cancel id =>
      match verifier.calls id with
      | .waiting _ => some (verifier.setCall id .canceled)
      | .discovering _ | .fetching _ _ =>
        some (({ verifier with locked := false }.record (.ended id verifier.now none)).setCall id
          .canceled)
      | _ => none
    | .wait seconds =>
      if 0 ≤ seconds then some { verifier with now := verifier.now + seconds } else none

/-! ## Logs -/

section Logs

variable {α : Type} {check : List α → α → Prop} {log : List α} {entry : α}

/-- Each entry of a log is warranted by the ones before it. -/
def Warranted (check : List α → α → Prop) (log : List α) : Prop :=
  ∀ before entry after, log = before ++ entry :: after → check before entry

theorem warranted_nil : Warranted check [] := by
  intro before entry after hsplit
  simp at hsplit

/-- A log stays warranted when the new entry is. -/
theorem warranted_append (hlog : Warranted check log) (hentry : check log entry) :
    Warranted check (log ++ [entry]) := by
  intro before other after hsplit
  rcases List.eq_nil_or_concat after with rfl | ⟨later, last, rfl⟩
  · obtain ⟨rfl, hlast⟩ := List.append_inj' hsplit rfl
    rw [List.singleton_inj] at hlast
    exact hlast ▸ hentry
  · rw [List.concat_eq_append, ← List.cons_append, ← List.append_assoc] at hsplit
    exact hlog before other later (List.append_inj' hsplit rfl).1

end Logs

/-! ## What the log shows -/

section History

/-- When a refresh ended, which call it was for, and the keys if it succeeded. -/
def KeyEvent.ending : KeyEvent → Option (CallId × Rat × Option (List PyJwk))
  | .ended id time keys => some (id, time, keys)
  | _ => none

/-- A refresh that succeeded. -/
def KeyEvent.success : KeyEvent → Option (CallId × Rat × List PyJwk)
  | .ended id time (some keys) => some (id, time, keys)
  | _ => none

/-- The refresh that ended last, and the last one that succeeded. -/
def lastEnd (log : List KeyEvent) : Option (CallId × Rat × Option (List PyJwk)) :=
  (log.filterMap KeyEvent.ending).getLast?

def lastSuccess (log : List KeyEvent) : Option (CallId × Rat × List PyJwk) :=
  (log.filterMap KeyEvent.success).getLast?

/-- Every refresh of a call that started has ended after that. -/
def Finished (log : List KeyEvent) (id : CallId) : Prop :=
  ∀ before time after, log = before ++ .started id time :: after →
    ∃ ended keys, .ended id ended keys ∈ after

/-- A refresh starts when all others have ended. -/
def Alone (before : List KeyEvent) : KeyEvent → Prop
  | .started _ _ => ∀ id, Finished before id
  | _ => True

/-- A refresh starts when all others have ended, and two seconds after the last of them. -/
def Spaced (before : List KeyEvent) : KeyEvent → Prop
  | .started _ time => (∀ id, Finished before id) ∧
      ∀ id ended keys, lastEnd before = some (id, ended, keys) → ended + 2 ≤ time
  | _ => True

/-- A refresh starts two seconds after the one before it has ended, if that one succeeded. -/
def SpacedAfterSuccess (before : List KeyEvent) : KeyEvent → Prop
  | .started _ time => ∀ id ended keys, lastEnd before = some (id, ended, some keys) →
      ended + 2 ≤ time
  | _ => True

/-- A token is verified with a key of the last refresh that succeeded, which is young or
was made by the same call. -/
def FreshKey (cacheSeconds : Rat) (before : List KeyEvent) : KeyEvent → Prop
  | .verified id time key _ => ∃ fetcher ended keys,
      lastSuccess before = some (fetcher, ended, keys) ∧ key ∈ keys ∧
        (time - ended < cacheSeconds ∨ fetcher = id)
  | _ => True

/-- The last success is the new entry if that is one. -/
theorem lastSuccess_append (log : List KeyEvent) (event : KeyEvent) :
    lastSuccess (log ++ [event]) = event.success.or (lastSuccess log) := by
  rw [lastSuccess, List.filterMap_append, List.getLast?_append]
  cases hevent : event.success with
  | none => simp [hevent, lastSuccess]
  | some success => simp [hevent]

theorem lastEnd_append (log : List KeyEvent) (event : KeyEvent) :
    lastEnd (log ++ [event]) = event.ending.or (lastEnd log) := by
  rw [lastEnd, List.filterMap_append, List.getLast?_append]
  cases hevent : event.ending with
  | none => simp [hevent, lastEnd]
  | some ending => simp [hevent]

/-- Where the last refresh succeeded, it is the last one that did. -/
theorem lastSuccess_of_lastEnd {log : List KeyEvent} {id : CallId} {time : Rat}
    {keys : List PyJwk} (hlast : lastEnd log = some (id, time, some keys)) :
    lastSuccess log = some (id, time, keys) := by
  induction log using List.reverseRecOn with
  | nil => cases hlast
  | append_singleton rest event ih =>
      rw [lastEnd_append] at hlast
      rw [lastSuccess_append]
      cases event with
      | ended other ended found =>
          obtain ⟨rfl, rfl, rfl⟩ := hlast
          rfl
      | started other started => exact ih hlast
      | verified other verified key access => exact ih hlast

theorem mem_of_lastEnd {log : List KeyEvent} {id : CallId} {time : Rat}
    {keys : Option (List PyJwk)} (hlast : lastEnd log = some (id, time, keys)) :
    KeyEvent.ended id time keys ∈ log := by
  obtain ⟨event, hevent, hending⟩ := List.mem_filterMap.mp (List.mem_of_getLast? hlast)
  cases event with
  | ended other ended found =>
      obtain ⟨rfl, rfl, rfl⟩ := hending
      exact hevent
  | started other started => cases hending
  | verified other verified key access => cases hending

variable {log : List KeyEvent} {id : CallId}

theorem finished_nil : Finished [] id := by
  intro before time after hsplit
  simp at hsplit

/-- What was finished stays so while no refresh of the call starts, and an end finishes it. -/
theorem finished_append {events : List KeyEvent} (hquiet : ∀ time, .started id time ∉ events)
    (hfinished : Finished log id ∨ ∃ time keys, .ended id time keys ∈ events) :
    Finished (log ++ events) id := by
  intro before time after hsplit
  rcases List.append_eq_append_iff.mp hsplit with ⟨rest, -, hevents⟩ | ⟨rest, hlog, hrest⟩
  · refine absurd ?_ (hquiet time)
    rw [hevents]
    exact List.mem_append_right _ List.mem_cons_self
  · cases rest with
    | nil =>
        refine absurd ?_ (hquiet time)
        rw [← List.nil_append events, ← hrest]
        exact List.mem_cons_self
    | cons first rest =>
        obtain ⟨rfl, rfl⟩ := List.cons_eq_cons.mp hrest
        rcases hfinished with hfinished | ⟨ended, keys, hended⟩
        · obtain ⟨ended, keys, hmem⟩ := hfinished before time rest hlog
          exact ⟨ended, keys, List.mem_append_left _ hmem⟩
        · exact ⟨ended, keys, List.mem_append_right _ hended⟩

end History

section Tracking

variable {library : TokenLibrary} {settings : VerifierSettings} {verifier next : TokenVerifier}
  {id : CallId} {call : TokenCall}

namespace TokenVerifier

theorem setCall_self (state : VerifyCall) : (verifier.setCall id state).calls id = state :=
  if_pos rfl

theorem setCall_other {other : CallId} {state : VerifyCall} (hne : other ≠ id) :
    (verifier.setCall id state).calls other = verifier.calls other :=
  if_neg hne

theorem mem_keys_of_get {kid : String} {key : PyJwk} (hget : verifier.get kid = some key) :
    key ∈ verifier.keys :=
  List.mem_reverse.mp (List.mem_of_find?_eq_some hget)

/-- The cache is what the last successful refresh left, and every token that was
accepted is in the log. -/
structure Tracked (cacheSeconds : Rat) (verifier : TokenVerifier) : Prop where
  spaced : Warranted SpacedAfterSuccess verifier.log
  fresh : Warranted (FreshKey cacheSeconds) verifier.log
  refreshedAt : verifier.refreshedAt = (lastSuccess verifier.log).map fun success => success.2.1
  keys : verifier.keys = ((lastSuccess verifier.log).map fun success => success.2.2).getD []
  accepted : ∀ id access, verifier.calls id = .ended (.ok (some access)) →
    ∃ time key, .verified id time key access ∈ verifier.log

/-- A call that does not accept a token goes on, with the log as it was. -/
theorem Tracked.setCall {cacheSeconds : Rat} {state : VerifyCall}
    (htracked : verifier.Tracked cacheSeconds)
    (hstate : ∀ access, state ≠ .ended (.ok (some access))) :
    (verifier.setCall id state).Tracked cacheSeconds where
  spaced := htracked.spaced
  fresh := htracked.fresh
  refreshedAt := htracked.refreshedAt
  keys := htracked.keys
  accepted := by
    intro other access hended
    by_cases hother : other = id
    · rw [hother, setCall_self] at hended
      exact absurd hended (hstate access)
    · rw [setCall_other hother] at hended
      exact htracked.accepted other access hended

/-- An event that is warranted is recorded. -/
theorem Tracked.record {cacheSeconds : Rat} {event : KeyEvent}
    (htracked : verifier.Tracked cacheSeconds) (hsuccess : event.success = none)
    (hspaced : SpacedAfterSuccess verifier.log event)
    (hfresh : FreshKey cacheSeconds verifier.log event) :
    (verifier.record event).Tracked cacheSeconds where
  spaced := warranted_append htracked.spaced hspaced
  fresh := warranted_append htracked.fresh hfresh
  refreshedAt := by
    rw [TokenVerifier.record, lastSuccess_append, hsuccess, Option.none_or]
    exact htracked.refreshedAt
  keys := by
    rw [TokenVerifier.record, lastSuccess_append, hsuccess, Option.none_or]
    exact htracked.keys
  accepted := by
    intro other access hended
    obtain ⟨time, key, hmem⟩ := htracked.accepted other access hended
    exact ⟨time, key, List.mem_append_left _ hmem⟩

/-- The keys of a refresh that succeeded replace the ones before. -/
theorem Tracked.refresh {cacheSeconds : Rat} (htracked : verifier.Tracked cacheSeconds)
    (id : CallId) (keys : List PyJwk) :
    ({ verifier with keys, refreshedAt := some verifier.now, locked := false }.record
      (.ended id verifier.now (some keys))).Tracked cacheSeconds where
  spaced := warranted_append htracked.spaced trivial
  fresh := warranted_append htracked.fresh trivial
  refreshedAt := by
    rw [TokenVerifier.record, lastSuccess_append]
    rfl
  keys := by
    rw [TokenVerifier.record, lastSuccess_append]
    rfl
  accepted := by
    intro other access hended
    obtain ⟨time, key, hmem⟩ := htracked.accepted other access hended
    exact ⟨time, key, List.mem_append_left _ hmem⟩

theorem Tracked.unlock {cacheSeconds : Rat} {locked : Bool}
    (htracked : verifier.Tracked cacheSeconds) :
    { verifier with locked }.Tracked cacheSeconds :=
  ⟨htracked.spaced, htracked.fresh, htracked.refreshedAt, htracked.keys, htracked.accepted⟩

theorem Tracked.wait {cacheSeconds : Rat} {now : Rat} (htracked : verifier.Tracked cacheSeconds) :
    { verifier with now }.Tracked cacheSeconds :=
  ⟨htracked.spaced, htracked.fresh, htracked.refreshedAt, htracked.keys, htracked.accepted⟩

/-- A refresh that fails only releases the lock. -/
theorem Tracked.abandon {cacheSeconds : Rat} (htracked : verifier.Tracked cacheSeconds) :
    ({ verifier with locked := false }.record (.ended id verifier.now none)).Tracked
      cacheSeconds := by
  have hunlocked : { verifier with locked := false }.Tracked cacheSeconds := htracked.unlock
  exact hunlocked.record rfl trivial trivial

/-- A failed refresh keeps the account: its time is not noted. -/
theorem Tracked.fail {cacheSeconds : Rat} (htracked : verifier.Tracked cacheSeconds)
    (id : CallId) (fault : KeyFault) : (verifier.fail id fault).Tracked cacheSeconds := by
  refine htracked.abandon.setCall fun access hended => ?_
  split at hended <;> cases hended

/-- What the rest of a call needs of the cache: that its keys come from the last
successful refresh, which is young or was made by this call. -/
theorem Tracked.finish {cacheSeconds clock : Rat} (htracked : verifier.Tracked cacheSeconds)
    (hyoung : ∃ fetcher ended keys, lastSuccess verifier.log = some (fetcher, ended, keys) ∧
      (verifier.now - ended < cacheSeconds ∨ fetcher = id)) :
    (Aidlc.finish library settings verifier id call clock).Tracked cacheSeconds := by
  obtain ⟨fetcher, ended, keys, hlast, hyoung⟩ := hyoung
  have hkeys := htracked.keys
  rw [hlast] at hkeys
  unfold Aidlc.finish
  cases hget : verifier.get call.kid with
  | none => exact htracked.setCall nofun
  | some key =>
      dsimp only
      cases haccess : accessToken library settings call.token call.header key clock with
      | none => exact htracked.setCall nofun
      | some access =>
          have hmem : key ∈ keys := by
            have hcached := mem_keys_of_get hget
            rwa [hkeys] at hcached
          have hrecorded : (verifier.record (.verified id verifier.now key access)).Tracked
              cacheSeconds :=
            htracked.record rfl trivial ⟨fetcher, ended, keys, hlast, hmem, hyoung⟩
          refine ⟨hrecorded.spaced, hrecorded.fresh, hrecorded.refreshedAt, hrecorded.keys, ?_⟩
          intro other found hended
          by_cases hother : other = id
          · rw [hother, setCall_self] at hended
            cases hended
            exact hother ▸ ⟨verifier.now, key, List.mem_append_right _ List.mem_cons_self⟩
          · rw [setCall_other hother] at hended
            exact hrecorded.accepted other found hended

/-- Without a refresh the cache is young, and at the start of one it is two seconds old. -/
theorem Tracked.age {cacheSeconds : Rat} {kid : String} (htracked : verifier.Tracked cacheSeconds) :
    (verifier.mustRefresh cacheSeconds kid = false →
      ∃ fetcher ended keys, lastSuccess verifier.log = some (fetcher, ended, keys) ∧
        verifier.now - ended < cacheSeconds) ∧
    (2 ≤ cacheSeconds → verifier.mustRefresh cacheSeconds kid = true →
      ∀ id ended keys, lastSuccess verifier.log = some (id, ended, keys) →
        ended + 2 ≤ verifier.now) := by
  have hrefreshed := htracked.refreshedAt
  unfold mustRefresh
  cases hlast : lastSuccess verifier.log with
  | none =>
      rw [hlast] at hrefreshed
      rw [hrefreshed]
      exact ⟨nofun, nofun⟩
  | some success =>
      obtain ⟨fetcher, ended, keys⟩ := success
      rw [hlast] at hrefreshed
      rw [hrefreshed]
      simp only [Option.map_some, Bool.or_eq_false_iff, decide_eq_false_iff_not, not_le,
        Bool.or_eq_true, Bool.and_eq_true, decide_eq_true_eq]
      refine ⟨fun hyoung => ⟨fetcher, ended, keys, rfl, hyoung.1⟩, ?_⟩
      rintro hcache hold id time found ⟨rfl, rfl, rfl⟩
      rcases hold with hold | hold
      · linarith
      · linarith [hold.2]

/-- A refresh that is due is spaced from the last success. -/
theorem Tracked.spaced_start {cacheSeconds : Rat} (htracked : verifier.Tracked cacheSeconds)
    (hcache : 2 ≤ cacheSeconds) {kid : String}
    (hrefresh : verifier.mustRefresh cacheSeconds kid = true) (id : CallId) :
    SpacedAfterSuccess verifier.log (.started id verifier.now) :=
  fun fetcher ended keys hlast =>
    htracked.age.2 hcache hrefresh fetcher ended keys (lastSuccess_of_lastEnd hlast)

end TokenVerifier

variable (library settings) in
/-- The provider answers as it should, and no refresh is canceled. -/
def providerAnswers (verifier : TokenVerifier) : KeyLabel → Bool
  | .discover _ answer => (discovered library settings answer).toBool
  | .fetch _ answer _ => (fetched library answer).toBool
  | .cancel id =>
    match verifier.calls id with
    | .discovering _ | .fetching _ _ => false
    | _ => true
  | _ => true

/-- The call is at the provider. -/
def VerifyCall.isRefreshing : VerifyCall → Bool
  | .discovering _ | .fetching _ _ => true
  | _ => false

variable (library settings verifier) in
/-- What a step can do. -/
inductive KeyStep : KeyLabel → TokenVerifier → Prop
  | moved (label : KeyLabel) (id : CallId) (state : VerifyCall)
      (hkept : state.isRefreshing = (verifier.calls id).isRefreshing)
      (hstate : ∀ access, state ≠ .ended (.ok (some access))) :
      KeyStep label (verifier.setCall id state)
  | started (id : CallId) (clock : Rat) (call : TokenCall) (hfree : verifier.locked = false)
      (hrefresh : verifier.mustRefresh settings.cacheSeconds call.kid = true) :
      KeyStep (.acquire id clock)
        (({ verifier with locked := true }.record (.started id verifier.now)).setCall id
          (.discovering call))
  | cached (id : CallId) (clock : Rat) (call : TokenCall)
      (hwaiting : verifier.calls id = .waiting call)
      (hrefresh : verifier.mustRefresh settings.cacheSeconds call.kid = false) :
      KeyStep (.acquire id clock) (finish library settings verifier id call clock)
  | refreshed (id : CallId) (answer : HttpAnswer) (clock : Rat) (call : TokenCall)
      (keys : List PyJwk) (hrefreshing : (verifier.calls id).isRefreshing = true) :
      KeyStep (.fetch id answer clock) (finish library settings
        ({ verifier with keys, refreshedAt := some verifier.now, locked := false }.record
          (.ended id verifier.now (some keys))) id call clock)
  | failed (label : KeyLabel) (id : CallId) (fault : KeyFault)
      (hrefreshing : (verifier.calls id).isRefreshing = true)
      (hanswer : providerAnswers library settings verifier label = false) :
      KeyStep label (verifier.fail id fault)
  | canceled (id : CallId) (hrefreshing : (verifier.calls id).isRefreshing = true)
      (hanswer : providerAnswers library settings verifier (.cancel id) = false) :
      KeyStep (.cancel id) (({ verifier with locked := false }.record
        (.ended id verifier.now none)).setCall id .canceled)
  | waited (seconds : Rat) :
      KeyStep (.wait seconds) { verifier with now := verifier.now + seconds }

/-- Every step of the verifier is one of these. -/
theorem keyStep_of_step {label : KeyLabel}
    (hstep : (tokenVerifier library settings).step verifier label = some next) :
    KeyStep library settings verifier label next := by
  -- One case for each await at which a call can go on.
  cases label with
  | verify id token =>
      cases hcall : verifier.calls id with
      | idle =>
          cases haccepted : acceptedHeader library token with
          | none =>
              simp only [tokenVerifier, hcall, haccepted, Option.some.injEq] at hstep
              exact hstep ▸ .moved _ id _ (by rw [hcall]; rfl) nofun
          | some accepted =>
              simp only [tokenVerifier, hcall, haccepted, Option.some.injEq] at hstep
              exact hstep ▸ .moved _ id _ (by rw [hcall]; rfl) nofun
      | _ => simp [tokenVerifier, hcall] at hstep
  | acquire id clock =>
      cases hcall : verifier.calls id with
      | waiting call =>
          cases hlocked : verifier.locked with
          | true => simp [tokenVerifier, hcall, hlocked] at hstep
          | false =>
              cases hrefresh : verifier.mustRefresh settings.cacheSeconds call.kid with
              | true =>
                  simp only [tokenVerifier, hcall, hlocked, hrefresh, if_true, Bool.false_eq_true,
                    if_false, Option.some.injEq] at hstep
                  exact hstep ▸ .started id clock call hlocked hrefresh
              | false =>
                  simp only [tokenVerifier, hcall, hlocked, hrefresh, Bool.false_eq_true,
                    if_false, Option.some.injEq] at hstep
                  exact hstep ▸ .cached id clock call hcall hrefresh
      | _ => simp [tokenVerifier, hcall] at hstep
  | discover id answer =>
      cases hcall : verifier.calls id with
      | discovering call =>
          have hrefreshing : (verifier.calls id).isRefreshing = true := by rw [hcall]; rfl
          cases hanswer : discovered library settings answer with
          | error fault =>
              simp only [tokenVerifier, hcall, hanswer, Option.some.injEq] at hstep
              exact hstep ▸ .failed _ id fault hrefreshing (by rw [providerAnswers, hanswer]; rfl)
          | ok url =>
              simp only [tokenVerifier, hcall, hanswer, Option.some.injEq] at hstep
              exact hstep ▸ .moved _ id _ hrefreshing.symm nofun
      | _ => simp [tokenVerifier, hcall] at hstep
  | fetch id answer clock =>
      cases hcall : verifier.calls id with
      | fetching call url =>
          have hrefreshing : (verifier.calls id).isRefreshing = true := by rw [hcall]; rfl
          cases hanswer : fetched library answer with
          | error fault =>
              simp only [tokenVerifier, hcall, hanswer, Option.some.injEq] at hstep
              exact hstep ▸ .failed _ id fault hrefreshing (by rw [providerAnswers, hanswer]; rfl)
          | ok keys =>
              simp only [tokenVerifier, hcall, hanswer, Option.some.injEq] at hstep
              exact hstep ▸ .refreshed id answer clock call keys hrefreshing
      | _ => simp [tokenVerifier, hcall] at hstep
  | cancel id =>
      cases hcall : verifier.calls id with
      | waiting call =>
          simp only [tokenVerifier, hcall, Option.some.injEq] at hstep
          exact hstep ▸ .moved _ id _ (by rw [hcall]; rfl) nofun
      | discovering call =>
          simp only [tokenVerifier, hcall, Option.some.injEq] at hstep
          exact hstep ▸ .canceled id (by rw [hcall]; rfl) (by simp only [providerAnswers, hcall])
      | fetching call url =>
          simp only [tokenVerifier, hcall, Option.some.injEq] at hstep
          exact hstep ▸ .canceled id (by rw [hcall]; rfl) (by simp only [providerAnswers, hcall])
      | _ => simp [tokenVerifier, hcall] at hstep
  | wait seconds =>
      simp only [tokenVerifier, Option.ite_none_right_eq_some, Option.some.injEq] at hstep
      exact hstep.2 ▸ .waited seconds

/-- Whoever holds the lock is at the provider alone, and every other refresh has ended. -/
structure TokenVerifier.Exclusive (verifier : TokenVerifier) : Prop where
  alone : Warranted Alone verifier.log
  held : ∀ id, (verifier.calls id).isRefreshing = true → verifier.locked = true
  single : ∀ id other, (verifier.calls id).isRefreshing = true →
    (verifier.calls other).isRefreshing = true → id = other
  finished : ∀ id, (verifier.calls id).isRefreshing = false → Finished verifier.log id

/-- A new verifier has refreshed nothing. -/
theorem exclusive_start : TokenVerifier.start.Exclusive :=
  ⟨warranted_nil, nofun, nofun, fun _ _ => finished_nil⟩

namespace TokenVerifier.Exclusive

/-- A call that stays at the provider, or away from it, changes nothing. -/
theorem moved {state : VerifyCall} (hexclusive : verifier.Exclusive)
    (hkept : state.isRefreshing = (verifier.calls id).isRefreshing) :
    (verifier.setCall id state).Exclusive := by
  have hcalls : ∀ other, ((verifier.setCall id state).calls other).isRefreshing =
      (verifier.calls other).isRefreshing := by
    intro other
    by_cases hother : other = id
    · rw [hother, setCall_self, hkept]
    · rw [setCall_other hother]
  refine ⟨hexclusive.alone, fun other => ?_, fun first second => ?_, fun other => ?_⟩
  · rw [hcalls]
    exact hexclusive.held other
  · rw [hcalls, hcalls]
    exact hexclusive.single first second
  · rw [hcalls]
    exact hexclusive.finished other

/-- A refresh starts where the lock is free, so that no other one is under way. -/
theorem started (hexclusive : verifier.Exclusive) (hfree : verifier.locked = false)
    (call : TokenCall) :
    (({ verifier with locked := true }.record (.started id verifier.now)).setCall id
      (.discovering call)).Exclusive := by
  have hidle : ∀ other, (verifier.calls other).isRefreshing = false := by
    intro other
    rw [Bool.eq_false_iff]
    intro hrefreshing
    rw [hexclusive.held other hrefreshing] at hfree
    cases hfree
  have hself : ∀ other, (((({ verifier with locked := true } : TokenVerifier).record
      (.started id verifier.now)).setCall id (.discovering call)).calls other).isRefreshing =
        true → other = id := by
    intro other hrefreshing
    by_contra hother
    rw [setCall_other hother] at hrefreshing
    exact Bool.noConfusion ((hidle other).symm.trans hrefreshing)
  refine ⟨warranted_append hexclusive.alone fun other => hexclusive.finished other (hidle other),
    fun _ _ => rfl, fun first second hfirst hsecond => ?_, fun other hother => ?_⟩
  · rw [hself first hfirst, hself second hsecond]
  · have hne : other ≠ id := by
      rintro rfl
      rw [setCall_self] at hother
      cases hother
    refine finished_append (fun time hmem => ?_) (.inl (hexclusive.finished other (hidle other)))
    cases List.mem_singleton.mp hmem
    exact hne rfl

/-- The end of a refresh frees the lock, and nobody else is at the provider. -/
theorem ended {state : VerifyCall} {keys : List PyJwk} {refreshedAt : Option Rat}
    {found : Option (List PyJwk)} (hexclusive : verifier.Exclusive)
    (hrefreshing : (verifier.calls id).isRefreshing = true) (hstate : state.isRefreshing = false) :
    (({ verifier with keys, refreshedAt, locked := false }.record
      (.ended id verifier.now found)).setCall id state).Exclusive := by
  have hothers : ∀ other, other ≠ id → (verifier.calls other).isRefreshing = false := by
    intro other hne
    rw [Bool.eq_false_iff]
    exact fun hother => hne (hexclusive.single other id hother hrefreshing)
  have hidle : ∀ other, (((({ verifier with keys, refreshedAt, locked := false } :
      TokenVerifier).record (.ended id verifier.now found)).setCall id state).calls
        other).isRefreshing = false := by
    intro other
    by_cases hother : other = id
    · rw [hother, setCall_self, hstate]
    · rw [setCall_other hother]
      exact hothers other hother
  refine ⟨warranted_append hexclusive.alone trivial, fun other hbusy => ?_,
    fun first _ hbusy => ?_, fun other _ => finished_append (fun time hmem => ?_) ?_⟩
  · rw [hidle other] at hbusy
    cases hbusy
  · rw [hidle first] at hbusy
    cases hbusy
  · cases List.mem_singleton.mp hmem
  · by_cases hother : other = id
    · exact .inr ⟨verifier.now, found, by rw [hother]; exact List.mem_cons_self⟩
    · exact .inl (hexclusive.finished other (hothers other hother))

/-- A verified token is no refresh. -/
theorem verified {time : Rat} {key : PyJwk} {access : AccessToken}
    (hexclusive : verifier.Exclusive) :
    (verifier.record (.verified id time key access)).Exclusive where
  alone := warranted_append hexclusive.alone trivial
  held := hexclusive.held
  single := hexclusive.single
  finished other hother := by
    refine finished_append (fun started hmem => ?_) (.inl (hexclusive.finished other hother))
    cases List.mem_singleton.mp hmem

/-- A call that ends outside a refresh leaves the lock to its holder. -/
theorem finish {clock : Rat} (hexclusive : verifier.Exclusive)
    (haway : (verifier.calls id).isRefreshing = false) :
    (Aidlc.finish library settings verifier id call clock).Exclusive := by
  unfold Aidlc.finish
  split
  next => exact hexclusive.moved haway.symm
  next key hget =>
    split
    next => exact hexclusive.moved haway.symm
    next access haccess => exact hexclusive.verified.moved haway.symm

end TokenVerifier.Exclusive

/-- Where the call stood has no bearing on the rest of it. -/
theorem finish_setCall (state : VerifyCall) {clock : Rat} :
    finish library settings (verifier.setCall id state) id call clock =
      finish library settings verifier id call clock := by
  have hcalls (last : VerifyCall) (log : List KeyEvent) :
      ({ verifier.setCall id state with log } : TokenVerifier).setCall id last =
        ({ verifier with log } : TokenVerifier).setCall id last := by
    unfold TokenVerifier.setCall
    congr 1
    funext other
    by_cases hother : other = id
    · simp only [hother, if_true]
    · simp only [hother, if_false]
  have hget : (verifier.setCall id state).get call.kid = verifier.get call.kid := rfl
  unfold finish
  rw [hget]
  split
  next => exact hcalls _ _
  next =>
    split
    next => exact hcalls _ _
    next => exact hcalls _ _

/-- Every step keeps the refreshes exclusive. -/
theorem exclusive_step (hexclusive : verifier.Exclusive) {label : KeyLabel}
    (hstep : (tokenVerifier library settings).step verifier label = some next) :
    next.Exclusive := by
  cases keyStep_of_step hstep with
  | moved label id state hkept hstate => exact hexclusive.moved hkept
  | started id clock call hfree hrefresh => exact hexclusive.started hfree call
  | cached id clock call hwaiting hrefresh => exact hexclusive.finish (by rw [hwaiting]; rfl)
  | refreshed id answer clock call keys hrefreshing =>
      -- the call leaves the provider before it goes on with the new keys
      rw [← finish_setCall .canceled]
      exact (hexclusive.ended hrefreshing rfl).finish (by rw [TokenVerifier.setCall_self]; rfl)
  | failed label id fault hrefreshing hanswer => exact hexclusive.ended hrefreshing rfl
  | canceled id hrefreshing hanswer => exact hexclusive.ended hrefreshing rfl
  | waited seconds =>
      exact ⟨hexclusive.alone, hexclusive.held, hexclusive.single, hexclusive.finished⟩

/-- Every step keeps the account of the refreshes. -/
theorem tracked_step (hcache : 2 ≤ settings.cacheSeconds)
    (htracked : verifier.Tracked settings.cacheSeconds) {label : KeyLabel}
    (hstep : (tokenVerifier library settings).step verifier label = some next) :
    next.Tracked settings.cacheSeconds := by
  cases keyStep_of_step hstep with
  | moved label id state hkept hstate => exact htracked.setCall hstate
  | started id clock call hfree hrefresh =>
      have hlocked : { verifier with locked := true }.Tracked settings.cacheSeconds :=
        htracked.unlock
      have hstarted : ({ verifier with locked := true }.record
          (.started id verifier.now)).Tracked settings.cacheSeconds :=
        hlocked.record rfl (htracked.spaced_start hcache hrefresh id) trivial
      exact hstarted.setCall nofun
  | cached id clock call hwaiting hrefresh =>
      obtain ⟨fetcher, ended, keys, hlast, hyoung⟩ := htracked.age.1 hrefresh
      exact htracked.finish ⟨fetcher, ended, keys, hlast, Or.inl hyoung⟩
  | refreshed id answer clock call keys hrefreshing =>
      have hlast : lastSuccess (verifier.log ++ [.ended id verifier.now (some keys)]) =
          some (id, verifier.now, keys) := lastSuccess_append _ _
      exact (htracked.refresh id keys).finish ⟨id, verifier.now, keys, hlast, Or.inr rfl⟩
  | failed label id fault hrefreshing hanswer => exact htracked.fail id fault
  | canceled id hrefreshing hanswer => exact htracked.abandon.setCall nofun
  | waited seconds => exact htracked.wait

/-- Every refresh so far succeeded. -/
def TokenVerifier.Succeeds (verifier : TokenVerifier) : Prop :=
  ∀ id time, .ended id time none ∉ verifier.log

/-- Ending a call adds no failed refresh. -/
theorem succeeds_finish {clock : Rat} (hsucceeds : verifier.Succeeds) :
    (finish library settings verifier id call clock).Succeeds := by
  unfold finish
  cases verifier.get call.kid with
  | none => exact hsucceeds
  | some key =>
      dsimp only
      cases accessToken library settings call.token call.header key clock with
      | none => exact hsucceeds
      | some access =>
          intro other time hmem
          rcases List.mem_append.mp hmem with hold | hnew
          · exact hsucceeds other time hold
          · cases List.mem_singleton.mp hnew

/-- While the provider answers no refresh fails. -/
theorem succeeds_step (hsucceeds : verifier.Succeeds) {label : KeyLabel}
    (hanswered : providerAnswers library settings verifier label = true)
    (hstep : (tokenVerifier library settings).step verifier label = some next) :
    next.Succeeds := by
  cases keyStep_of_step hstep with
  | moved label id state hkept hstate => exact hsucceeds
  | started id clock call hfree hrefresh =>
      intro other time hmem
      rcases List.mem_append.mp hmem with hold | hnew
      · exact hsucceeds other time hold
      · cases List.mem_singleton.mp hnew
  | cached id clock call hwaiting hrefresh => exact succeeds_finish hsucceeds
  | refreshed id answer clock call keys hrefreshing =>
      refine succeeds_finish fun other time hmem => ?_
      rcases List.mem_append.mp hmem with hold | hnew
      · exact hsucceeds other time hold
      · cases List.mem_singleton.mp hnew
  | failed label id fault hrefreshing hanswer => rw [hanswer] at hanswered; cases hanswered
  | canceled id hrefreshing hanswer => rw [hanswer] at hanswered; cases hanswered
  | waited seconds => exact hsucceeds

/-- In every run tokens are verified with keys of the last successful refresh, young or
fetched by the same call, no two refreshes overlap, and they are two seconds apart where
none fails. -/
theorem key_refreshes_spaced (library : TokenLibrary) (settings : VerifierSettings)
    (hcache : 2 ≤ settings.cacheSeconds) {labels : List KeyLabel} {final : TokenVerifier}
    (hrun : (tokenVerifier library settings).run .start labels = some final) :
    (∀ id access, final.calls id = .ended (.ok (some access)) →
      ∃ time key, .verified id time key access ∈ final.log) ∧
    Warranted (FreshKey settings.cacheSeconds) final.log ∧ Warranted Alone final.log ∧
    ((tokenVerifier library settings).along (providerAnswers library settings) .start labels =
        true → Warranted Spaced final.log) := by
  have htracked : final.Tracked settings.cacheSeconds :=
    (tokenVerifier library settings).run_invariant
      (TokenVerifier.Tracked settings.cacheSeconds)
      (fun _ _ _ htracked hstep => tracked_step hcache htracked hstep)
      ⟨warranted_nil, warranted_nil, rfl, rfl, fun _ _ hended => by cases hended⟩ hrun
  have hexclusive : final.Exclusive :=
    (tokenVerifier library settings).run_invariant TokenVerifier.Exclusive
      (fun _ _ _ hexclusive hstep => exclusive_step hexclusive hstep) exclusive_start hrun
  refine ⟨htracked.accepted, htracked.fresh, hexclusive.alone, fun halong => ?_⟩
  have hsucceeds : final.Succeeds :=
    (tokenVerifier library settings).run_invariant_along TokenVerifier.Succeeds
      (providerAnswers library settings)
      (fun _ _ _ hanswered hsucceeds hstep => succeeds_step hsucceeds hanswered hstep)
      halong (fun _ _ => List.not_mem_nil) hrun
  intro before event after hsplit
  have hspaced := htracked.spaced before event after hsplit
  have halone := hexclusive.alone before event after hsplit
  cases event with
  | started id time =>
      refine ⟨halone, fun other ended keys hlast => ?_⟩
      cases keys with
      | none =>
          have hmem := mem_of_lastEnd hlast
          exact absurd (hsplit ▸ List.mem_append_left _ hmem) (hsucceeds other ended)
      | some keys => exact hspaced other ended keys hlast
  | ended id time keys => trivial
  | verified id time key access => trivial

end Tracking

/-- A provider whose tokens are the identifiers of their keys. -/
def sampleLibrary : TokenLibrary where
  header token := some [("alg", .str "RS256"), ("kid", .str token)]
  decode _ _ issuer resource clock :=
    if 300 ≤ clock then none
    else some [("iss", .str issuer), ("aud", .str resource), ("exp", .int 300), ("iat", .int 0),
      ("sub", .str "subject"), ("azp", .str "client"), ("typ", .str "Bearer")]
  keySet value := match value with
    | .obj _ => .ok [⟨some "one", some "RS256", some "sig", .null⟩]
    | _ => .error .attribute
  urlsplit _ := some ⟨"https", some "issuer.example", none, none, "", ""⟩

def sampleVerifier : VerifierSettings := ⟨"https://issuer.example", "https://mcp.example", 300⟩

/-- A token is verified, and two seconds later an unknown key is looked for. -/
def sampleVerifying : List KeyLabel :=
  [.verify 0 "one", .acquire 0 0,
    .discover 0 (.answered 200 (some (.obj [("issuer", .str "https://issuer.example"),
      ("jwks_uri", .str "https://issuer.example/certs")]))),
    .fetch 0 (.answered 200 (some (.obj []))) 0, .wait 2, .verify 1 "two", .acquire 1 2]

theorem key_refreshes_sample : (2 : Rat) ≤ sampleVerifier.cacheSeconds ∧
    ∃ final, (tokenVerifier sampleLibrary sampleVerifier).run .start sampleVerifying =
        some final ∧
      (∀ id access, final.calls id = .ended (.ok (some access)) →
        ∃ time key, .verified id time key access ∈ final.log) ∧
      Warranted (FreshKey sampleVerifier.cacheSeconds) final.log ∧ Warranted Alone final.log ∧
      ((tokenVerifier sampleLibrary sampleVerifier).along
          (providerAnswers sampleLibrary sampleVerifier) .start sampleVerifying = true →
        Warranted Spaced final.log) := by
  have hcache : (2 : Rat) ≤ sampleVerifier.cacheSeconds := by decide +kernel
  have hrun : ((tokenVerifier sampleLibrary sampleVerifier).run .start
      sampleVerifying).isSome = true := by decide +kernel
  obtain ⟨final, hfinal⟩ := Option.isSome_iff_exists.mp hrun
  exact ⟨hcache, final, hfinal, key_refreshes_spaced sampleLibrary sampleVerifier hcache hfinal⟩

/-- After an outage the next unknown key is looked for at once. -/
theorem refresh_after_outage : ∃ final,
    (tokenVerifier sampleLibrary sampleVerifier).run .start
      [.verify 0 "one", .acquire 0 0, .discover 0 .unreachable, .verify 1 "two", .acquire 1 0] =
        some final ∧
    ¬Warranted Spaced final.log := by
  refine ⟨_, rfl, fun hspaced => ?_⟩
  have hlate : (0 : Rat) + 2 ≤ 0 :=
    (hspaced [.started 0 0, .ended 0 0 none] (.started 1 0) [] rfl).2 0 0 none rfl
  linarith

end Aidlc
