import Forum.Entities.LookupCollections
import Forum.Repository.Requests
import Forum.ServiceEndpoints.AuthStore
import Forum.ServiceEndpoints.Endpoints

/-!
# Around the endpoints

`AbstractEndpoint::handleInternal`: what happens to a request before its command. The origin of the request is checked,
then whether the double submit cookie came back in a header. The thread that serves the request sets its context from
it: the authentication of the token in a cookie, unless the second check failed, and how the output is to be shown. The
command handler looks for the user with this authentication, and may refuse commands.

Several threads serve requests, one after the other each, while logins add tokens and the store changes. What a thread
did before leaves nothing in its context. `authorized_of_runFrom`: nobody is a registered user without a login that was
valid when the request was received, and the double submit pair.

How strings are read as numbers follows `try_lexical_convert`. Left out is the count of visitors.
-/

namespace Forum.ServiceEndpoints

open Library Http Commands Entities Repository

/-! ### Requests -/

/-- The bytes of a `std::string`. -/
def stdString (bytes : List UInt8) : String := String.ofList (bytes.map fun byte => Char.ofNat byte.toNat)

namespace ReceivedRequest

/-- The bytes of a header, empty when it was not sent. -/
def header (r : ReceivedRequest) (name : HttpHeader) : List UInt8 := (r.request.headers name).bytes r.headerBuffer

/-- The bytes of the first cookie of a name, empty when it was not sent. -/
def getCookie (r : ReceivedRequest) (searchName : String) : List UInt8 :=
  ((r.request.cookies.find? fun cookie => cookie.1.bytes r.headerBuffer == asciiBytes searchName).map
    fun cookie => cookie.2.bytes r.headerBuffer).getD []

end ReceivedRequest

/-- The signed number of so many bits that a text is converted to. The digits may have a sign. -/
def numberOfText (bits : ℕ) (text : List UInt8) : Option ℤ :=
  let digits := if text.head? = some 43 ∨ text.head? = some 45 then text.tail else text
  let value : ℤ := if text.head? = some 45 then -decimalNumber digits else decimalNumber digits
  if digits ≠ [] ∧ digits.all isDigit ∧ -2 ^ (bits - 1) ≤ value ∧ value < 2 ^ (bits - 1) then some value else none

/-! ### The context of a thread -/

/-- `Context::SortOrder`. -/
inductive SortOrder
  | Ascending | Descending
  deriving DecidableEq, Repr

/-- `Context::DisplayContext`. -/
structure DisplayContext where
  sortOrder : SortOrder := .Ascending
  pageNumber : ℤ := 0
  checkNotChangedSince : Timestamp := 0
  deriving DecidableEq

/-- What `Context` keeps for each thread. The empty id is `0`. -/
structure ThreadContext where
  currentUserId : IdType := 0
  currentUserAuth : String := ""
  currentUserShowInOnlineUsers : Bool := false
  currentUserIpAddress : Option (List UInt8) := none
  displayContext : DisplayContext := {}
  deriving DecidableEq

/-- The configuration of the service. -/
structure ServiceConfig where
  expectedOriginReferer : List UInt8 := []
  disableCommands : Bool := false
  disableCommandsForAnonymousUsers : Bool := false
  /-- `try_lexical_convert` to an `int_fast32_t`. -/
  toIntFast32 : List UInt8 → Option ℤ
  /-- `try_lexical_convert` to a `Timestamp`. -/
  toTimestamp : List UInt8 → Option ℤ

/-! ### Checks -/

/-- Does an address begin with what is expected, and end there or go on with a slash? -/
def validateAddressStart (needle haystack : List UInt8) : Bool :=
  needle <+: haystack && (needle.length == haystack.length || haystack[needle.length]? == some 47)

/-- `validateOriginReferer`: the answer to a request that does not pass. -/
def validateOriginReferer (config : ServiceConfig) (r : ReceivedRequest) : Option (HttpStatusCode × String) :=
  let expected := config.expectedOriginReferer
  if expected = [] then none
  else
    let origin := r.header .Origin
    let referer := r.header .Referer
    if origin = [] ∧ referer = [] then some (.Bad_Request, "An Origin or Referer header is required.")
    else if origin ≠ [] ∧ ¬ validateAddressStart expected origin then some (.Bad_Request, "Unexpected Origin header.")
    else if referer ≠ [] ∧ ¬ validateAddressStart expected referer then some (.Bad_Request, "Unexpected Referer header.")
    else none

/-- `validateCsrf`: the header has to repeat the cookie. -/
def validateCsrf (r : ReceivedRequest) : Bool :=
  let expected := r.getCookie "double_submit"
  let doubleSubmitValue := r.header .X_Double_Submit
  if expected = [] ∧ doubleSubmitValue = [] then false
  else if doubleSubmitValue ≠ expected then false
  else true

/-! ### Serving a request -/

/-- How a query pair changes how the output is shown. -/
def readQueryPair (config : ServiceConfig) (display : DisplayContext) (pair : List UInt8 × List UInt8) : DisplayContext :=
  if matchStringUpperOrLower pair.1 "page" "PAGE" then
    { display with pageNumber := (config.toIntFast32 pair.2).getD 0 }
  else if matchStringUpperOrLower pair.1 "sort" "SORT" && matchStringUpperOrLower pair.2 "descending" "DESCENDING" then
    { display with sortOrder := .Descending }
  else display

/-- `updateContextForRequest`: who sends a request, and from where. -/
def updateContextForRequest (config : ServiceConfig) (authStore : AuthStore) (now : ℤ) (r : ReceivedRequest)
    (allowAuth : Bool) (ctx : ThreadContext) : ThreadContext :=
  let ctx := { ctx with currentUserId := 0, currentUserAuth := "", currentUserIpAddress := r.request.remoteAddress }
  let ctx :=
    if allowAuth then
      let authToken := r.getCookie "auth"
      if authToken ≠ [] then
        let authResult := authStore.find (stdString authToken) now
        if authResult ≠ "" then { ctx with currentUserAuth := authResult } else ctx
      else ctx
    else ctx
  let ctx :=
    { ctx with
      currentUserShowInOnlineUsers := r.getCookie "show_my_user_in_users_online" == asciiBytes "true"
      displayContext :=
        { ctx.displayContext with sortOrder := .Ascending, pageNumber := 0, checkNotChangedSince := 0 } }
  { ctx with displayContext := r.queryPairs.foldl (readQueryPair config) ctx.displayContext }

/-- `MemoryRepositoryUser::updateCurrentUserId`. -/
def updateCurrentUserId (s : EntityCollection) (ctx : ThreadContext) : ThreadContext :=
  if ctx.currentUserAuth = "" then ctx
  else
    let it := s.findUnique .usersByAuth (toLex (ctx.currentUserAuth.toList.map Char.toNat, 0))
    match (s.uniqueIndex .usersByAuth)[it]? with
    | none => ctx
    | some user => { ctx with currentUserId := user }

/-- The beginning of `CommandHandler::handle`: the context in which the handler of the command runs, unless commands are
disabled. -/
def CommandHandler.enter (config : ServiceConfig) (s : EntityCollection) (call : Call) (ctx : ThreadContext) :
    ThreadContext × Bool :=
  let ctx := updateCurrentUserId s ctx
  match call with
  | .view _ => (ctx, true)
  | .command _ =>
    if config.disableCommands then (ctx, false)
    else if config.disableCommandsForAnonymousUsers ∧ ctx.currentUserId = 0 then (ctx, false)
    else (ctx, true)

/-- `handleInternal` up to the call of the endpoint: the answer to a request that is refused, or the context for it. -/
def handleInternal (config : ServiceConfig) (authStore : AuthStore) (now : ℤ) (r : ReceivedRequest)
    (ctx : ThreadContext) : Except (HttpStatusCode × String) ThreadContext :=
  match validateOriginReferer config r with
  | some answer => .error answer
  | none => .ok (updateContextForRequest config authStore now r (validateCsrf r) ctx)

/-! ### What may be performed -/

/-- The address is the one that is expected, or something below it. -/
def AddressWithin (expected address : List UInt8) : Prop := address = expected ∨ ∃ rest, address = expected ++ 47 :: rest

/-- A request says where it comes from, and that is what is expected, if anything is. -/
def OriginExpected (config : ServiceConfig) (r : ReceivedRequest) : Prop :=
  config.expectedOriginReferer = [] ∨
    (r.header .Origin ≠ [] ∨ r.header .Referer ≠ []) ∧
    (r.header .Origin ≠ [] → AddressWithin config.expectedOriginReferer (r.header .Origin)) ∧
    (r.header .Referer ≠ [] → AddressWithin config.expectedOriginReferer (r.header .Referer))

/-- The double submit cookie came back in the header. -/
def DoubleSubmitted (r : ReceivedRequest) : Prop :=
  r.getCookie "double_submit" ≠ [] ∧ r.header .X_Double_Submit = r.getCookie "double_submit"

theorem validateAddressStart_iff (expected address : List UInt8) :
    validateAddressStart expected address = true ↔ AddressWithin expected address := by
  unfold validateAddressStart AddressWithin
  rw [Bool.and_eq_true, Bool.or_eq_true, beq_iff_eq, beq_iff_eq, decide_eq_true_iff]
  constructor
  · rintro ⟨⟨rest, rfl⟩, hlength | hslash⟩
    · have hrest : rest = [] := by simpa using hlength
      exact Or.inl (by rw [hrest, List.append_nil])
    · rw [List.getElem?_append_right (Nat.le_refl _), Nat.sub_self] at hslash
      cases rest with
      | nil => cases hslash
      | cons first rest =>
        obtain rfl : first = 47 := Option.some.inj hslash
        exact Or.inr ⟨rest, rfl⟩
  · rintro (rfl | ⟨rest, rfl⟩)
    · exact ⟨List.prefix_refl _, Or.inl rfl⟩
    · exact ⟨List.prefix_append _ _, Or.inr (by simp)⟩

theorem validateOriginReferer_eq_none_iff (config : ServiceConfig) (r : ReceivedRequest) :
    validateOriginReferer config r = none ↔ OriginExpected config r := by
  unfold validateOriginReferer OriginExpected
  dsimp only
  rw [← validateAddressStart_iff, ← validateAddressStart_iff]
  split_ifs with hexpected hneither horigin hreferer
  · exact iff_of_true rfl (Or.inl hexpected)
  · refine iff_of_false (by simp) ?_
    rintro (h | ⟨h | h, -⟩)
    · exact hexpected h
    · exact h hneither.1
    · exact h hneither.2
  · refine iff_of_false (by simp) ?_
    rintro (h | ⟨-, h, -⟩)
    · exact hexpected h
    · exact horigin.2 (h horigin.1)
  · refine iff_of_false (by simp) ?_
    rintro (h | ⟨-, -, h⟩)
    · exact hexpected h
    · exact hreferer.2 (h hreferer.1)
  · refine iff_of_true rfl (Or.inr ⟨?_, fun h => ?_, fun h => ?_⟩)
    · by_contra hboth
      rw [not_or, not_ne_iff, not_ne_iff] at hboth
      exact hneither hboth
    · by_contra hnot
      exact horigin ⟨h, hnot⟩
    · by_contra hnot
      exact hreferer ⟨h, hnot⟩

theorem validateCsrf_iff (r : ReceivedRequest) : validateCsrf r = true ↔ DoubleSubmitted r := by
  unfold validateCsrf DoubleSubmitted
  dsimp only
  split_ifs with hneither hdifferent
  · exact iff_of_false (by simp) fun h => h.1 hneither.1
  · exact iff_of_false (by simp) fun h => hdifferent h.2
  · rw [not_ne_iff] at hdifferent
    refine iff_of_true rfl ⟨fun hempty => hneither ⟨hempty, ?_⟩, hdifferent⟩
    rw [hdifferent, hempty]

/-! ### The context of a request -/

/-- The context for a request, with an authentication. -/
def requestContext (config : ServiceConfig) (r : ReceivedRequest) (auth : String) : ThreadContext where
  currentUserAuth := auth
  currentUserShowInOnlineUsers := r.getCookie "show_my_user_in_users_online" == asciiBytes "true"
  currentUserIpAddress := r.request.remoteAddress
  displayContext := r.queryPairs.foldl (readQueryPair config) {}

/-- Whatever the context was, only the authentication of a token that is found is added to what the request says. -/
theorem updateContextForRequest_eq (config : ServiceConfig) (authStore : AuthStore) (now : ℤ) (r : ReceivedRequest)
    (allowAuth : Bool) (ctx : ThreadContext) :
    ∃ auth, updateContextForRequest config authStore now r allowAuth ctx = requestContext config r auth ∧
      (auth ≠ "" → allowAuth = true ∧ auth = authStore.find (stdString (r.getCookie "auth")) now) := by
  unfold updateContextForRequest requestContext
  dsimp only
  split_ifs with hallow
  · exact ⟨_, rfl, fun _ => ⟨hallow, rfl⟩⟩
  all_goals exact ⟨"", rfl, fun h => absurd rfl h⟩

/-- What is found has not expired. -/
theorem entry_of_find {authStore : AuthStore} {authToken : String} {now : ℤ} (h : authStore.find authToken now ≠ "") :
    ∃ expiresAt, authStore.collection authToken = some (authStore.find authToken now, expiresAt) ∧ now ≤ expiresAt := by
  unfold AuthStore.find at h ⊢
  cases hentry : authStore.collection authToken with
  | none =>
    rw [hentry] at h
    exact absurd rfl h
  | some entry =>
    obtain ⟨authId, expiresAt⟩ := entry
    rw [hentry] at h
    dsimp only at h ⊢
    split_ifs at h ⊢ with hexpired
    · exact absurd rfl h
    · exact ⟨expiresAt, rfl, Int.not_lt.1 hexpired⟩

/-- Looking for the user changes nothing but the id. -/
theorem updateCurrentUserId_eq (s : EntityCollection) (ctx : ThreadContext) :
    updateCurrentUserId s ctx = { ctx with currentUserId := (updateCurrentUserId s ctx).currentUserId } := by
  unfold updateCurrentUserId
  dsimp only
  split_ifs
  · rfl
  · split <;> rfl

theorem map_toNat_injective {a b : String} (h : a.toList.map Char.toNat = b.toList.map Char.toNat) : a = b := by
  apply String.toList_inj.1
  exact List.map_injective_iff.2 (fun c d hcd => Char.toNat_inj.1 hcd) h

/-- The user that is found has the authentication of the context. -/
theorem auth_updateCurrentUserId (s : EntityCollection) {ctx : ThreadContext} (hid : ctx.currentUserId = 0)
    (hset : (updateCurrentUserId s ctx).currentUserId ≠ 0) :
    ctx.currentUserAuth ≠ "" ∧ (s.user (updateCurrentUserId s ctx).currentUserId).auth = ctx.currentUserAuth := by
  unfold updateCurrentUserId at hset ⊢
  dsimp only at hset ⊢
  split_ifs at hset ⊢ with hauth
  · exact absurd hid hset
  · refine ⟨hauth, ?_⟩
    split at hset
    · exact absurd hid hset
    next user huser =>
      obtain ⟨hlt, hget⟩ := List.getElem?_eq_some_iff.1 huser
      unfold EntityCollection.findUnique at hlt hget
      have hkey := of_decide_eq_true (List.findIdx_getElem (w := hlt))
      rw [hget] at hkey
      exact map_toNat_injective (congrArg (fun key => (ofLex key).1) hkey)

/-! ### Logins -/

/-- `loginUser`: what is added to the store of tokens, if anything is. -/
def loginUser (config : ServiceConfig) (authToken authId expiresInString : List UInt8) : Option AddRequest :=
  if authToken = [] ∨ authId = [] ∨ expiresInString = [] then none
  else
    let expiresIn := (config.toTimestamp expiresInString).getD 0
    if expiresIn < 1 then none else some ⟨stdString authToken, stdString authId, expiresIn⟩

namespace AuthSystem

/-- An entry was there, or it is what the action inserts. -/
theorem collection_step {s s' : AuthSystem} {action : AuthAction} (hstep : s.step action = some s') {authToken : String}
    {entry : String × ℤ} (hentry : s'.store.collection authToken = some entry) :
    s.store.collection authToken = some entry ∨ ∃ add, s.insertion action = some add ∧ add.1.authToken = authToken ∧
      entry = (add.1.authId, AuthStore.expiresAt add.2 add.1.expiresIn) := by
  cases action with
  | tick now =>
    unfold AuthSystem.step at hstep
    dsimp only at hstep
    split_ifs at hstep
    cases hstep
    exact Or.inl hentry
  | callAdd thread request =>
    unfold AuthSystem.step at hstep
    dsimp only at hstep
    split at hstep
    · cases hstep
    · split_ifs at hstep <;> cases hstep <;> exact Or.inl hentry
  | advance thread =>
    unfold AuthSystem.step at hstep
    unfold insertion
    dsimp only at hstep ⊢
    cases hthread : s.adds thread with
    | none =>
      rw [hthread] at hstep
      cases hstep
    | some call =>
      obtain ⟨request, stage⟩ := call
      rw [hthread] at hstep
      cases stage with
      | erase now =>
        cases hstep
        exact Or.inl (Option.filter_eq_some_iff.1 hentry).1
      | storeCleanup now | readClock =>
        cases hstep
        exact Or.inl hentry
      | insert addedAt =>
        cases hstep
        have hentry : Function.update s.store.collection request.authToken
            (some ((s.store.collection request.authToken).getD
              (request.authId, AuthStore.expiresAt addedAt request.expiresIn))) authToken = some entry := hentry
        by_cases heq : authToken = request.authToken
        · rw [heq, Function.update_self] at hentry
          cases hold : s.store.collection request.authToken with
          | none =>
            rw [hold] at hentry
            exact Or.inr ⟨_, rfl, heq.symm, (Option.some.inj hentry).symm⟩
          | some old =>
            rw [hold] at hentry
            exact Or.inl (by rw [heq, hold]; exact hentry)
        · rw [Function.update_of_ne heq] at hentry
          exact Or.inl hentry

/-- What is inserted was about to be. -/
theorem pending_of_insertion {s : AuthSystem} {action : AuthAction} {add : AddRequest × ℤ}
    (h : s.insertion action = some add) : ∃ thread stage, s.adds thread = some (add.1, stage) := by
  unfold insertion at h
  split at h
  next thread =>
    split at h
    next request addedAt hthread =>
      cases h
      exact ⟨thread, _, hthread⟩
    · cases h
  · cases h

/-- A call of `add` goes on, or it is the one that begins. -/
theorem adds_step {s s' : AuthSystem} {action : AuthAction} (hstep : s.step action = some s') {thread : ℕ}
    {call : AddRequest × AddStage} (hcall : s'.adds thread = some call) :
    (∃ stage, s.adds thread = some (call.1, stage)) ∨ action = .callAdd thread call.1 := by
  have hset : ∀ {other : ℕ} {stage : Option (AddRequest × AddStage)},
      Function.update s.adds other stage thread = some call → thread = other ∧ stage = some call ∨ s.adds thread = some call := by
    intro other stage h
    by_cases heq : thread = other
    · rw [heq, Function.update_self] at h
      exact Or.inl ⟨heq, h⟩
    · rw [Function.update_of_ne heq] at h
      exact Or.inr h
  cases action with
  | tick now =>
    unfold AuthSystem.step at hstep
    dsimp only at hstep
    split_ifs at hstep
    cases hstep
    exact Or.inl ⟨call.2, hcall⟩
  | callAdd other request =>
    unfold AuthSystem.step at hstep
    dsimp only at hstep
    split at hstep
    · cases hstep
    · split_ifs at hstep
      all_goals
        cases hstep
        rcases hset hcall with ⟨rfl, heq⟩ | h
        · cases heq
          exact Or.inr rfl
        · exact Or.inl ⟨call.2, h⟩
  | advance other =>
    unfold AuthSystem.step at hstep
    dsimp only at hstep
    cases hother : s.adds other with
    | none =>
      rw [hother] at hstep
      cases hstep
    | some old =>
      obtain ⟨request, stage⟩ := old
      rw [hother] at hstep
      cases stage with
      | erase | storeCleanup | readClock =>
        cases hstep
        rcases hset hcall with ⟨rfl, heq⟩ | h
        · cases heq
          exact Or.inl ⟨_, hother⟩
        · exact Or.inl ⟨call.2, h⟩
      | insert addedAt =>
        cases hstep
        rcases hset hcall with ⟨rfl, heq⟩ | h
        · cases heq
        · exact Or.inl ⟨call.2, h⟩

end AuthSystem

/-! ### Threads -/

/-- A request that a thread is serving: what its endpoint calls the command handler for, and when it was received. -/
structure Serving where
  call : Call
  r : ReceivedRequest
  receivedAt : ℤ

/-- The store of tokens with the logins under way, the store of the forum, the context of each thread that serves
requests, what it is serving, and what logins have added, and when. -/
structure EndpointSystem where
  authSystem : AuthSystem
  collection : EntityCollection
  contexts : ℕ → ThreadContext
  serving : ℕ → Option Serving
  logins : List (AddRequest × ℤ)

/-- The clock goes on, a login arrives or takes its next step, a thread receives a request, or enters the command
handler for the one that it is serving and is done with it, or the store of the forum changes. -/
inductive EndpointAction
  | tick (now : ℤ)
  | login (thread : ℕ) (authToken authId expiresIn : List UInt8)
  | advance (thread : ℕ)
  | receive (thread : ℕ) (call : Call) (r : ReceivedRequest)
  | enter (thread : ℕ)
  | change (collection : EntityCollection)

namespace EndpointSystem

/-- The system with an empty store of logins, before any request. -/
def start (now : ℤ) (collection : EntityCollection) : EndpointSystem :=
  ⟨.start now, collection, fun _ => {}, fun _ => none, []⟩

/-- One step of the service. -/
def step (config : ServiceConfig) (sys : EndpointSystem) : EndpointAction → Option EndpointSystem
  | .tick now => (sys.authSystem.step (.tick now)).map fun authSystem => { sys with authSystem := authSystem }
  | .login thread authToken authId expiresIn =>
    match loginUser config authToken authId expiresIn with
    | none => some sys
    | some request =>
      (sys.authSystem.step (.callAdd thread request)).map fun authSystem => { sys with authSystem := authSystem }
  | .advance thread =>
    (sys.authSystem.step (.advance thread)).map fun authSystem =>
      { sys with
        authSystem := authSystem
        logins := (sys.authSystem.insertion (.advance thread)).toList ++ sys.logins }
  | .receive thread call r =>
    match sys.serving thread with
    | some _ => none
    | none =>
      match handleInternal config sys.authSystem.store sys.authSystem.clock r (sys.contexts thread) with
      | .error _ => some sys
      | .ok ctx =>
        some { sys with
          contexts := Function.update sys.contexts thread ctx
          serving := Function.update sys.serving thread (some ⟨call, r, sys.authSystem.clock⟩) }
  | .enter thread =>
    (sys.serving thread).map fun serving =>
      { sys with
        contexts := Function.update sys.contexts thread
          (CommandHandler.enter config sys.collection serving.call (sys.contexts thread)).1
        serving := Function.update sys.serving thread none }
  | .change collection => some { sys with collection := collection }

/-- A login of a token under an authentication that had not expired at a time. -/
def ValidLogin (config : ServiceConfig) (sys : EndpointSystem) (authToken authId : String) (now : ℤ) : Prop :=
  ∃ add ∈ sys.logins, (∃ token id expiresIn, loginUser config token id expiresIn = some add.1) ∧
    add.1.authToken = authToken ∧ add.1.authId = authId ∧ now ≤ add.2 + add.1.expiresIn

/-- Tokens, and what is about to be added, come from logins; and so does the authentication of a request that is being
served, whose context is that of the request. -/
structure Sound (config : ServiceConfig) (sys : EndpointSystem) : Prop where
  entries : ∀ authToken entry, sys.authSystem.store.collection authToken = some entry →
    ∃ add ∈ sys.logins, add.1.authToken = authToken ∧
      entry = (add.1.authId, AuthStore.expiresAt add.2 add.1.expiresIn)
  pending : ∀ thread add, sys.authSystem.adds thread = some add →
    ∃ token id expiresIn, loginUser config token id expiresIn = some add.1
  logins : ∀ add ∈ sys.logins, ∃ token id expiresIn, loginUser config token id expiresIn = some add.1
  serving : ∀ thread serving, sys.serving thread = some serving → OriginExpected config serving.r ∧
    ∃ auth, sys.contexts thread = requestContext config serving.r auth ∧
      (auth ≠ "" → DoubleSubmitted serving.r ∧
        sys.ValidLogin config (stdString (serving.r.getCookie "auth")) auth serving.receivedAt)

variable {config : ServiceConfig} {sys sys' : EndpointSystem}

theorem sound_start (now : ℤ) (collection : EntityCollection) : (start now collection).Sound config where
  entries := fun _ _ h => by cases h
  pending := fun _ _ h => by cases h
  logins := fun _ h => by cases h
  serving := fun _ _ h => by cases h

/-- More logins take no login away. -/
theorem ValidLogin.mono {authToken authId : String} {now : ℤ} (h : sys.ValidLogin config authToken authId now)
    (hlogins : ∀ add ∈ sys.logins, add ∈ sys'.logins) : sys'.ValidLogin config authToken authId now := by
  obtain ⟨add, hmem, hadd⟩ := h
  exact ⟨add, hlogins add hmem, hadd⟩

/-- A step of the store of tokens that begins no call but that of a login. -/
theorem Sound.authStep (h : sys.Sound config) {action : AuthAction} {authSystem : AuthSystem}
    (hstep : sys.authSystem.step action = some authSystem)
    (hcall : ∀ thread request, action = .callAdd thread request →
      ∃ token id expiresIn, loginUser config token id expiresIn = some request) :
    ({ sys with authSystem := authSystem, logins := (sys.authSystem.insertion action).toList ++ sys.logins } :
      EndpointSystem).Sound config where
  entries := by
    intro authToken entry hentry
    rcases AuthSystem.collection_step hstep hentry with hold | ⟨add, hadd, htoken, heq⟩
    · obtain ⟨add, hmem, hadd⟩ := h.entries authToken entry hold
      exact ⟨add, List.mem_append_right _ hmem, hadd⟩
    · exact ⟨add, List.mem_append_left _ (Option.mem_toList.2 hadd), htoken, heq⟩
  pending := by
    intro thread add hadd
    rcases AuthSystem.adds_step hstep hadd with ⟨stage, hold⟩ | hbegins
    · exact h.pending thread (add.1, stage) hold
    · exact hcall thread add.1 hbegins
  logins := by
    intro add hadd
    rcases List.mem_append.1 hadd with hnew | hold
    · obtain ⟨thread, stage, hpending⟩ := AuthSystem.pending_of_insertion (Option.mem_toList.1 hnew)
      exact h.pending thread (add.1, stage) hpending
    · exact h.logins add hold
  serving := by
    intro thread serving hserving
    obtain ⟨horigin, auth, hcontext, hauth⟩ := h.serving thread serving hserving
    refine ⟨horigin, auth, hcontext, fun hne => ⟨(hauth hne).1, (hauth hne).2.mono fun add hadd => ?_⟩⟩
    exact List.mem_append_right _ hadd

/-- A thread that receives a request has the context of the request. -/
theorem Sound.receive (h : sys.Sound config) {thread : ℕ} {call : Call} {r : ReceivedRequest} {ctx : ThreadContext}
    (hhandle : handleInternal config sys.authSystem.store sys.authSystem.clock r (sys.contexts thread) = .ok ctx) :
    ({ sys with
      contexts := Function.update sys.contexts thread ctx
      serving := Function.update sys.serving thread (some ⟨call, r, sys.authSystem.clock⟩) } :
        EndpointSystem).Sound config where
  entries := h.entries
  pending := h.pending
  logins := h.logins
  serving := by
    intro other serving hserving
    dsimp only at hserving ⊢
    by_cases heq : other = thread
    · subst heq
      rw [Function.update_self] at hserving ⊢
      cases hserving
      unfold handleInternal at hhandle
      split at hhandle
      · cases hhandle
      next hvalid =>
        cases hhandle
        obtain ⟨auth, hctx, hauth⟩ := updateContextForRequest_eq config sys.authSystem.store sys.authSystem.clock r
          (validateCsrf r) (sys.contexts other)
        refine ⟨(validateOriginReferer_eq_none_iff config r).1 hvalid, auth, hctx, fun hne => ?_⟩
        obtain ⟨hcsrf, hfind⟩ := hauth hne
        refine ⟨(validateCsrf_iff r).1 hcsrf, ?_⟩
        obtain ⟨expiresAt, hentry, hvalid⟩ := entry_of_find (hfind ▸ hne)
        obtain ⟨add, hadd, htoken, heq⟩ := h.entries _ _ hentry
        rw [Prod.mk.injEq] at heq
        have hexpires := hvalid.trans (heq.2.le.trans (AuthStore.expiresAt_le add.2 add.1.expiresIn))
        exact ⟨add, hadd, h.logins add hadd, htoken, heq.1.symm.trans hfind.symm, hexpires⟩
    · rw [Function.update_of_ne heq] at hserving ⊢
      exact h.serving other serving hserving

theorem Sound.enter (h : sys.Sound config) (thread : ℕ) (ctx : ThreadContext) :
    ({ sys with
      contexts := Function.update sys.contexts thread ctx
      serving := Function.update sys.serving thread none } : EndpointSystem).Sound config where
  entries := h.entries
  pending := h.pending
  logins := h.logins
  serving := by
    intro other serving hserving
    dsimp only at hserving ⊢
    by_cases heq : other = thread
    · rw [heq, Function.update_self] at hserving
      cases hserving
    · rw [Function.update_of_ne heq] at hserving ⊢
      exact h.serving other serving hserving

theorem Sound.step (h : sys.Sound config) {action : EndpointAction} (hstep : sys.step config action = some sys') :
    sys'.Sound config := by
  cases action with
  | tick now =>
    obtain ⟨authSystem, hauth, rfl⟩ := Option.map_eq_some_iff.1 hstep
    exact h.authStep hauth (fun _ _ heq => by cases heq)
  | login thread authToken authId expiresIn =>
    unfold EndpointSystem.step at hstep
    dsimp only at hstep
    split at hstep
    · cases hstep
      exact h
    next request hlogin =>
      obtain ⟨authSystem, hauth, rfl⟩ := Option.map_eq_some_iff.1 hstep
      refine h.authStep hauth fun thread' request' heq => ?_
      cases heq
      exact ⟨_, _, _, hlogin⟩
  | advance thread =>
    obtain ⟨authSystem, hauth, rfl⟩ := Option.map_eq_some_iff.1 hstep
    exact h.authStep hauth (fun _ _ heq => by cases heq)
  | receive thread call r =>
    unfold EndpointSystem.step at hstep
    dsimp only at hstep
    split at hstep
    · cases hstep
    · split at hstep
      · cases hstep
        exact h
      next ctx hhandle =>
        cases hstep
        exact h.receive hhandle
  | enter thread =>
    obtain ⟨serving, -, rfl⟩ := Option.map_eq_some_iff.1 hstep
    exact h.enter thread _
  | change collection =>
    cases hstep
    exact ⟨h.entries, h.pending, h.logins, h.serving⟩

/-! ### Who may do what -/

/-- May a call be made? -/
def Enabled (config : ServiceConfig) (call : Call) (ctx : ThreadContext) : Prop :=
  ∀ c, call = .command c → config.disableCommands = false ∧
    (config.disableCommandsForAnonymousUsers = true → ctx.currentUserId ≠ 0)

/-- What a handler may rely on: the request says where it comes from, the context is that of the request but for who
performs it, an authentication comes from a login that was valid when the request was received and from a request that
submitted twice, and the user has this authentication. -/
structure Authorized (config : ServiceConfig) (sys : EndpointSystem) (serving : Serving) (ctx : ThreadContext) :
    Prop where
  origin : OriginExpected config serving.r
  context : ctx = { requestContext config serving.r ctx.currentUserAuth with currentUserId := ctx.currentUserId }
  login : ctx.currentUserAuth ≠ "" → DoubleSubmitted serving.r ∧
    sys.ValidLogin config (stdString (serving.r.getCookie "auth")) ctx.currentUserAuth serving.receivedAt
  user : ctx.currentUserId ≠ 0 →
    ctx.currentUserAuth ≠ "" ∧ (sys.collection.user ctx.currentUserId).auth = ctx.currentUserAuth

theorem enter_fst (s : EntityCollection) (call : Call) (ctx : ThreadContext) :
    (CommandHandler.enter config s call ctx).1 = updateCurrentUserId s ctx := by
  unfold CommandHandler.enter
  cases call with
  | command c =>
    dsimp only
    split_ifs <;> rfl
  | view v => rfl

theorem enter_snd_iff (s : EntityCollection) (call : Call) (ctx : ThreadContext) :
    (CommandHandler.enter config s call ctx).2 = true ↔ Enabled config call (updateCurrentUserId s ctx) := by
  unfold CommandHandler.enter Enabled
  cases call with
  | command c =>
    dsimp only
    split_ifs with hdisabled hanonymous
    · exact iff_of_false (by simp) fun h => by simp [hdisabled] at h
    · exact iff_of_false (by simp) fun h => (h c rfl).2 hanonymous.1 hanonymous.2
    · refine iff_of_true rfl fun _ _ => ⟨by simpa using hdisabled, fun hflag hid => hanonymous ⟨hflag, hid⟩⟩
  | view v => exact iff_of_true rfl fun c hc => by cases hc

/-- In every interleaving of logins, requests on any threads and changes of the store: a command runs only where that is
enabled, and who performs it is authorized. -/
theorem authorized_of_runFrom {now : ℤ} {collection : EntityCollection} {actions : List EndpointAction}
    (hrun : runFrom (EndpointSystem.step config) (start now collection) actions = some sys) {thread : ℕ}
    {serving : Serving} (hserving : sys.serving thread = some serving) :
    ((CommandHandler.enter config sys.collection serving.call (sys.contexts thread)).2 = true ↔
      Enabled config serving.call (CommandHandler.enter config sys.collection serving.call (sys.contexts thread)).1) ∧
    Authorized config sys serving (CommandHandler.enter config sys.collection serving.call (sys.contexts thread)).1 := by
  have hsound : sys.Sound config :=
    runFrom_invariant (P := Sound config) (fun _ _ _ h hstep => h.step hstep) (sound_start now collection) hrun
  obtain ⟨horigin, auth, hcontext, hauth⟩ := hsound.serving thread serving hserving
  rw [enter_fst]
  refine ⟨enter_snd_iff _ _ _, horigin, ?_, fun hne => ?_, fun hid => ?_⟩
  · rw [updateCurrentUserId_eq, hcontext]
    rfl
  · rw [updateCurrentUserId_eq, hcontext] at hne ⊢
    exact hauth hne
  · have hzero : (sys.contexts thread).currentUserId = 0 := by rw [hcontext]; rfl
    have huser := auth_updateCurrentUserId sys.collection hzero hid
    rw [updateCurrentUserId_eq]
    exact huser

/-- A login, and a request with its token that submits twice. -/
def loginAndRequest : List EndpointAction :=
  [.login 0 (asciiBytes "token") (asciiBytes "auth") (asciiBytes "60"), .advance 0, .advance 0, .advance 0, .advance 0,
    .tick 1030, .receive 1 (.view .GET_CURRENT_USER)
      ⟨{ headers := fun name => if name = .X_Double_Submit then ⟨0, 2⟩ else {},
         cookies := [(⟨2, 13⟩, ⟨0, 2⟩), (⟨15, 4⟩, ⟨19, 5⟩)] }, asciiBytes "42double_submitauthtoken"⟩]

/-- A store with a registered user. -/
def storeWithUser : EntityCollection := run [(⟨0, 1, ""⟩, .addNewUser 1 ⟨"user", [1]⟩ "auth")] .empty

/-- A configuration that checks nothing, with the usual conversions. -/
def plainConfig : ServiceConfig where
  toIntFast32 := numberOfText 64
  toTimestamp := numberOfText 64

/-- The request is performed by the user who has logged in. -/
theorem authorized_loginAndRequest : ∃ sys serving,
    runFrom (EndpointSystem.step plainConfig) (start 1000 storeWithUser) loginAndRequest = some sys ∧
    sys.serving 1 = some serving ∧ (sys.contexts 1).currentUserAuth = "auth" ∧
    (CommandHandler.enter plainConfig sys.collection serving.call (sys.contexts 1)).1.currentUserId = 1 ∧
    Authorized plainConfig sys serving (CommandHandler.enter plainConfig sys.collection serving.call (sys.contexts 1)).1 := by
  have hrun : runFrom (EndpointSystem.step plainConfig) (start 1000 storeWithUser) loginAndRequest = some _ := rfl
  exact ⟨_, _, hrun, rfl, rfl, rfl, (authorized_of_runFrom hrun rfl).2⟩

end EndpointSystem

end Forum.ServiceEndpoints
