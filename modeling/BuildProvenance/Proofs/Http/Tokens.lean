import BuildProvenance.Proofs.Http.Exchange
import BuildProvenance.Proofs.Service
import Mathlib.Tactic

/-!
# Whom a token is shown to

A history is what is said in a sequence of calls, one after the other.  A token
is given out in answer to a request for one, for the registry and repository of
the call in the course of which it is asked for.  The requests for a manifest
show the token given out last for their own registry and repository, and what
is remembered is just that.
-/

namespace BuildProvenance.Http

variable {σ : Type}

/-- One call, and what is said in the course of it. -/
structure Call (σ : Type) where
  request : ManifestRequest
  before : Session σ
  sent : List Exchange
  result : Result Manifest
  after : Session σ

/-- The call for a manifest from this session on. -/
def call (transport : Transport σ) (scheme : String) (request : ManifestRequest)
    (session : Session σ) : Call σ :=
  let outcome := fetchManifest transport.logged scheme request (session.withLog [])
  { request
    before := session
    sent := outcome.2.transport.2
    result := outcome.1
    after := ⟨outcome.2.transport.1, outcome.2.tokens⟩ }

/-- The calls for manifests one after the other, whether they fail or not. -/
def calls (transport : Transport σ) (scheme : String) :
    List ManifestRequest → Session σ → List (Call σ)
  | [], _ => []
  | request :: rest, session =>
    call transport scheme request session ::
      calls transport scheme rest (call transport scheme request session).after

/-- Requests for a token ask for no kind of manifest. -/
def Exchange.isForToken (exchange : Exchange) : Bool := exchange.request.accept.isNone

/-- The token given out last in the course of a call. -/
def granted? (sent : List Exchange) : Option String :=
  sent.foldl (fun found exchange =>
    if exchange.isForToken then exchange.token?.or found else found) none

/-- The exchanges of several calls in the order of time, each with the request of its call. -/
abbrev History := List (ManifestRequest × Exchange)

namespace History

/-- The token given out last for a registry and a repository. -/
def token? (history : History) (scope : String × String) : Option String :=
  history.foldl (fun found event =>
    if event.1.scope = scope ∧ event.2.isForToken = true then event.2.token?.or found
    else found) none

end History

def events (request : ManifestRequest) (sent : List Exchange) : History :=
  sent.map fun exchange => (request, exchange)

def history (calls : List (Call σ)) : History :=
  calls.flatMap fun call => events call.request call.sent

/-! ## Tokens given out -/

theorem granted?_append_singleton (sent : List Exchange) (exchange : Exchange) :
    granted? (sent ++ [exchange]) =
      if exchange.isForToken then exchange.token?.or (granted? sent) else granted? sent := by
  unfold granted?
  rw [List.foldl_append]
  rfl

theorem History.token?_append_singleton (history : History) (event : ManifestRequest × Exchange)
    (scope : String × String) :
    History.token? (history ++ [event]) scope =
      if event.1.scope = scope ∧ event.2.isForToken = true then
        event.2.token?.or (history.token? scope)
      else history.token? scope := by
  unfold History.token?
  rw [List.foldl_append]
  rfl

/-- A call gives out tokens for its own registry and repository alone. -/
theorem History.token?_append_events (history : History) (request : ManifestRequest)
    (sent : List Exchange) (scope : String × String) :
    History.token? (history ++ events request sent) scope =
      if request.scope = scope then (granted? sent).or (history.token? scope)
      else history.token? scope := by
  induction sent using List.reverseRecOn with
  | nil => simp [events, granted?]
  | append_singleton sent exchange ih =>
      have hevents : history ++ events request (sent ++ [exchange]) =
          history ++ events request sent ++ [(request, exchange)] := by
        simp [events]
      rw [hevents, History.token?_append_singleton, ih, granted?_append_singleton]
      by_cases hscope : request.scope = scope
      · cases exchange.isForToken with
        | false => simp [hscope]
        | true => simp [hscope, Option.or_assoc]
      · simp [hscope]

theorem history_append (earlier later : List (Call σ)) :
    history (earlier ++ later) = history earlier ++ history later :=
  List.flatMap_append

theorem history_singleton (call : Call σ) : history [call] = events call.request call.sent := by
  simp [history]

/-! ## One conversation -/

variable {scheme : String} {request : ManifestRequest} {token granted : Option String}
  {opening exchange : Exchange} {sent done rest : List Exchange}

theorem Exchange.ForManifest.isForToken (hfor : exchange.ForManifest scheme request token) :
    exchange.isForToken = false := by
  obtain ⟨target, -, hrequest⟩ := hfor
  simp [Exchange.isForToken, hrequest]

theorem Exchange.ForToken.isForToken {source : TokenSource} (hfor : exchange.ForToken source) :
    exchange.isForToken = true := by
  obtain ⟨target, -, hrequest⟩ := hfor
  simp [Exchange.isForToken, hrequest]

theorem granted?_cons (hkind : opening.isForToken = false) (sent : List Exchange) :
    granted? (opening :: sent) = granted? sent := by
  simp [granted?, hkind]

theorem granted?_singleton (hkind : exchange.isForToken = true) :
    granted? [exchange] = exchange.token? := by
  simp [granted?, hkind]

theorem Continues.granted_eq (hcontinues : Continues scheme request opening sent granted) :
    granted = granted? sent := by
  cases hcontinues with
  | settled => rfl
  | stopped source exchange challenged asked => exact (granted?_singleton asked.isForToken).symm
  | repeated source exchange closing token challenged asked hgranted again =>
      rw [← List.singleton_append, granted?_append_singleton, again.isForToken,
        granted?_singleton asked.isForToken, hgranted]
      rfl

theorem Conversation.granted_eq (hsaid : Conversation scheme request token sent granted) :
    granted = granted? sent := by
  cases hsaid with
  | silent => rfl
  | opened opening rest granted asked continues =>
      rw [granted?_cons asked.isForToken]
      exact continues.granted_eq

/-- After the first request for a manifest, there is one more at most, after a token was
given out, which it shows. -/
theorem Continues.forManifest (hcontinues : Continues scheme request opening sent granted)
    (hsplit : sent = done ++ exchange :: rest) (hkind : exchange.isForToken = false) :
    rest = [] ∧ ∃ asked source token, done = [asked] ∧
      opening.Challenges request.repository source ∧ asked.ForToken source ∧
        asked.token? = some token ∧ exchange.ForManifest scheme request (some token) := by
  cases hcontinues with
  | settled => simp at hsplit
  | stopped source asked challenged hasked =>
      rcases done with _ | ⟨first, done⟩
      · cases hsplit
        rw [hasked.isForToken] at hkind
        cases hkind
      · simp at hsplit
  | repeated source asked closing token challenged hasked hgranted again =>
      rcases done with _ | ⟨first, _ | ⟨second, done⟩⟩
      · cases hsplit
        rw [hasked.isForToken] at hkind
        cases hkind
      · cases hsplit
        exact ⟨rfl, asked, source, token, rfl, challenged, hasked, hgranted, again⟩
      · simp at hsplit

/-- A request for a manifest shows the token given out before in the same call, or else the
one at hand. -/
theorem Conversation.forManifest (hsaid : Conversation scheme request token sent granted)
    (hsplit : sent = done ++ exchange :: rest) (hkind : exchange.isForToken = false) :
    exchange.ForManifest scheme request ((granted? done).or token) := by
  cases hsaid with
  | silent => simp at hsplit
  | opened opening later granted asked continues =>
      rcases done with _ | ⟨first, done⟩
      · cases hsplit
        exact asked
      · obtain ⟨rfl, hlater⟩ := List.cons.inj hsplit
        obtain ⟨-, second, source, fresh, rfl, -, hfor, hfresh, hshown⟩ :=
          continues.forManifest hlater hkind
        rwa [granted?_cons asked.isForToken, granted?_singleton hfor.isForToken, hfresh]

/-- A request for a token follows a challenge, and shows none. -/
theorem Conversation.forToken (hsaid : Conversation scheme request token sent granted)
    (hmem : exchange ∈ sent) (hkind : exchange.isForToken = true) :
    exchange.request.authorization = none ∧ ∃ opening source, sent.head? = some opening ∧
      opening.isForToken = false ∧ opening.Challenges request.repository source ∧
        exchange.ForToken source := by
  have hnone : ∀ {source : TokenSource}, exchange.ForToken source →
      exchange.request.authorization = none := by
    rintro source ⟨target, -, hrequest⟩
    rw [hrequest]
  cases hsaid with
  | silent => cases hmem
  | opened opening later granted asked continues =>
      have hopening := asked.isForToken
      rcases List.mem_cons.mp hmem with rfl | hmem
      · rw [hopening] at hkind
        cases hkind
      · cases continues with
        | settled => cases hmem
        | stopped source second challenged hfor =>
            obtain rfl := List.mem_singleton.mp hmem
            exact ⟨hnone hfor, opening, source, rfl, hopening, challenged, hfor⟩
        | repeated source second closing fresh challenged hfor hgranted again =>
            rcases List.mem_pair.mp hmem with rfl | rfl
            · exact ⟨hnone hfor, opening, source, rfl, hopening, challenged, hfor⟩
            · rw [again.isForToken] at hkind
              cases hkind

theorem Conversation.counts (hsaid : Conversation scheme request token sent granted) :
    (sent.filter fun exchange => !exchange.isForToken).length ≤ 2 ∧
      (sent.filter fun exchange => exchange.isForToken).length ≤ 1 := by
  cases hsaid with
  | silent => simp
  | opened opening later granted asked continues =>
      have hopening := asked.isForToken
      cases continues with
      | settled => simp [hopening]
      | stopped source second challenged hfor => simp [hopening, hfor.isForToken]
      | repeated source second closing fresh challenged hfor hgranted again =>
          simp [hopening, hfor.isForToken, again.isForToken]

/-- The manifest is asked for again after a challenge alone, with the token given out for it. -/
theorem Conversation.again (hsaid : Conversation scheme request token sent granted)
    {first closing : Exchange} {between : List Exchange}
    (hsplit : sent = done ++ first :: (between ++ closing :: rest))
    (hfirst : first.isForToken = false) (hclosing : closing.isForToken = false) :
    ∃ asked source fresh, between = [asked] ∧ first.Challenges request.repository source ∧
      asked.ForToken source ∧ asked.token? = some fresh ∧
        closing.ForManifest scheme request (some fresh) := by
  cases hsaid with
  | silent => simp at hsplit
  | opened opening later granted asked continues =>
      rcases done with _ | ⟨head, done⟩
      · obtain ⟨rfl, hlater⟩ := List.cons.inj hsplit
        obtain ⟨-, second, source, fresh, hbetween, hrest⟩ :=
          continues.forManifest hlater hclosing
        exact ⟨second, source, fresh, hbetween, hrest⟩
      · obtain ⟨hnone, -⟩ := continues.forManifest (List.cons.inj hsplit).2 hfirst
        simp at hnone

/-! ## Histories -/

variable {transport : Transport σ} {session after : Session σ}

theorem token?_of_given (htokens : after.tokens = given request granted ++ session.tokens)
    (registry repository : String) :
    after.token? registry repository =
      if request.scope = (registry, repository) then
        granted.or (session.token? registry repository)
      else session.token? registry repository := by
  unfold Session.token?
  rw [htokens]
  cases granted with
  | none => simp [given]
  | some token =>
      by_cases hscope : request.scope = (registry, repository)
      · simp [given, hscope]
      · simp [given, hscope]

/-- A call comes to the outcome that it has without a log. -/
theorem call_eq (transport : Transport σ) (scheme : String) (request : ManifestRequest)
    (session : Session σ) :
    ∃ sent result after,
      call transport scheme request session = ⟨request, session, sent, result, after⟩ ∧
      fetchManifest transport scheme request session = (result, after) ∧
      after.tokens = given request (granted? sent) ++ session.tokens ∧
      Conversation scheme request (session.token? request.registry request.repository) sent
        (granted? sent) := by
  rcases hfetch : fetchManifest transport scheme request session with ⟨result, after⟩
  obtain ⟨sent, granted, hadds, htokens, hsaid, -⟩ := fetchManifest_adds hfetch
  obtain rfl := hsaid.granted_eq
  refine ⟨sent, result, after, ?_, rfl, htokens, hsaid⟩
  unfold call
  simp only [hadds []]
  rfl

/-- What a call says to whom, after these calls. -/
structure Scoped (transport : Transport σ) (scheme : String) (earlier : List (Call σ))
    (call : Call σ) : Prop where
  fetched : fetchManifest transport scheme call.request call.before = (call.result, call.after)
  /-- A request for a manifest goes to its address and shows the token that was given out
  last for the registry and the repository, if there was one. -/
  manifests : ∀ done exchange rest, call.sent = done ++ exchange :: rest →
    exchange.isForToken = false →
      Url.parse (manifestUrl scheme call.request) = .ok exchange.request.url ∧
      exchange.request.authorization =
        (History.token? (history earlier ++ events call.request done) call.request.scope).map
          bearer
  /-- A request for a token goes where a challenge of this call says, and shows none. -/
  tokens : ∀ exchange ∈ call.sent, exchange.isForToken = true →
    exchange.request.authorization = none ∧ ∃ opening source, call.sent.head? = some opening ∧
      opening.isForToken = false ∧ opening.Challenges call.request.repository source ∧
        exchange.ForToken source
  counts : (call.sent.filter fun exchange => !exchange.isForToken).length ≤ 2 ∧
    (call.sent.filter fun exchange => exchange.isForToken).length ≤ 1
  /-- The manifest is asked for again after a challenge alone, and then with the token that
  was given out in between. -/
  again : ∀ done opening between closing rest,
    call.sent = done ++ opening :: (between ++ closing :: rest) →
      opening.isForToken = false → closing.isForToken = false →
        ∃ response asked token, opening.answer = .ok response ∧
          response.status = unauthorized ∧ between = [asked] ∧ asked.isForToken = true ∧
          asked.token? = some token ∧ closing.request.authorization = some (bearer token)
  /-- What is remembered before and after is what was given out last. -/
  remembered : ∀ registry repository,
    call.before.token? registry repository =
        (history earlier).token? (registry, repository) ∧
      call.after.token? registry repository =
        (history (earlier ++ [call])).token? (registry, repository)
  /-- Only a token that is given out changes what is remembered, for the own repository. -/
  changed : ∀ registry repository,
    call.after.token? registry repository ≠ call.before.token? registry repository →
      (registry, repository) = call.request.scope ∧
        ∃ exchange ∈ call.sent, exchange.isForToken = true ∧
          ∃ token, exchange.token? = some token ∧
            call.after.token? registry repository = some token

theorem exists_of_granted? {token : String} (hgranted : granted? sent = some token) :
    ∃ exchange ∈ sent, exchange.isForToken = true ∧ exchange.token? = some token := by
  induction sent using List.reverseRecOn with
  | nil => cases hgranted
  | append_singleton sent exchange ih =>
      rw [granted?_append_singleton] at hgranted
      have hbefore : granted? sent = some token →
          ∃ found ∈ sent ++ [exchange], found.isForToken = true ∧ found.token? = some token := by
        intro hsome
        obtain ⟨found, hmem, hfound⟩ := ih hsome
        exact ⟨found, List.mem_append_left _ hmem, hfound⟩
      split at hgranted
      next hkind =>
        cases htoken : exchange.token? with
        | none =>
            rw [htoken, Option.none_or] at hgranted
            exact hbefore hgranted
        | some held =>
            rw [htoken, Option.some_or] at hgranted
            exact ⟨exchange, List.mem_append_right _ (List.mem_singleton_self _), hkind,
              htoken.trans hgranted⟩
      next hkind => exact hbefore hgranted

theorem scoped_call {earlier : List (Call σ)}
    (hremembered : ∀ registry repository,
      session.token? registry repository = (history earlier).token? (registry, repository)) :
    Scoped transport scheme earlier (call transport scheme request session) := by
  obtain ⟨sent, result, after, hcall, hfetch, htokens, hsaid⟩ :=
    call_eq transport scheme request session
  have hafter := token?_of_given htokens
  rw [hcall]
  constructor
  case fetched => exact hfetch
  case manifests =>
    intro done exchange rest hsplit hkind
    obtain ⟨target, hparse, hrequest⟩ := hsaid.forManifest hsplit hkind
    rw [hrequest]
    refine ⟨hparse, ?_⟩
    rw [History.token?_append_events, if_pos rfl]
    exact congrArg (fun held => ((granted? done).or held).map bearer) (hremembered _ _)
  case tokens =>
    intro exchange hmem hkind
    exact hsaid.forToken hmem hkind
  case counts => exact hsaid.counts
  case again =>
    intro done opening between closing rest hsplit hopening hclosing
    obtain ⟨asked, source, fresh, hbetween, ⟨response, challenge, hanswer, hstatus, -⟩, hfor,
      hgranted, ⟨target, -, hrequest⟩⟩ := hsaid.again hsplit hopening hclosing
    refine ⟨response, asked, fresh, hanswer, hstatus, hbetween, hfor.isForToken, hgranted, ?_⟩
    rw [hrequest]
    rfl
  case remembered =>
    intro registry repository
    refine ⟨hremembered registry repository, ?_⟩
    rw [history_append, history_singleton, History.token?_append_events, hafter,
      hremembered registry repository]
  case changed =>
    intro registry repository hchanged
    rw [hafter] at hchanged ⊢
    by_cases hscope : request.scope = (registry, repository)
    · rw [if_pos hscope] at hchanged ⊢
      cases hgranted : granted? sent with
      | none =>
          rw [hgranted, Option.none_or] at hchanged
          exact absurd rfl hchanged
      | some token =>
          obtain ⟨exchange, hmem, hkind, htoken⟩ := exists_of_granted? hgranted
          exact ⟨hscope.symm, exchange, hmem, hkind, token, htoken, by rw [Option.some_or]⟩
    · rw [if_neg hscope] at hchanged
      exact absurd rfl hchanged

theorem scoped_of_calls {requests : List ManifestRequest} {past earlier later : List (Call σ)}
    {made : Call σ}
    (hremembered : ∀ registry repository,
      session.token? registry repository = (history past).token? (registry, repository))
    (hsplit : calls transport scheme requests session = earlier ++ made :: later) :
    Scoped transport scheme (past ++ earlier) made := by
  induction requests generalizing session past earlier with
  | nil => simp [calls] at hsplit
  | cons request requests ih =>
      have hscoped : Scoped transport scheme past (call transport scheme request session) :=
        scoped_call hremembered
      rcases earlier with _ | ⟨first, earlier⟩
      · rw [List.append_nil]
        rwa [← (List.cons.inj hsplit).1]
      · obtain ⟨rfl, hrest⟩ := List.cons.inj hsplit
        have hlater := ih (fun registry repository => (hscoped.remembered registry repository).2)
          hrest
        rwa [List.append_assoc] at hlater

/-- Whatever the servers answer, a call shows its registry the token that was given out last
for the registry and the repository, and no other. -/
theorem tokens_scoped (transport : Transport σ) (scheme : String)
    (requests : List ManifestRequest) (state : σ) {earlier later : List (Call σ)}
    {made : Call σ}
    (hsplit : calls transport scheme requests ⟨state, []⟩ = earlier ++ made :: later) :
    Scoped transport scheme earlier made := by
  have hscoped : Scoped transport scheme ([] ++ earlier) made :=
    scoped_of_calls (fun _ _ => rfl) hsplit
  exact hscoped

/-! A registry that gives out a token to whoever asks for one. -/

def generous : Transport (Service.Session Request) :=
  Service.client fun request =>
    match request.accept, request.authorization with
    | none, _ => .ok ⟨200, [], "\x7b\"token\":\"abc\"\x7d".toUTF8⟩
    | some _, none =>
      .ok ⟨401, [("WWW-Authenticate", "Bearer realm=\"https://auth.example/token\"")],
        "".toUTF8⟩
    | some _, some _ => .ok ⟨200, [], "\x7b\x7d".toUTF8⟩

def latest (repository : String) : ManifestRequest := ⟨"registry.example", repository, "latest"⟩

def appCall : Call (Service.Session Request) :=
  call generous "https" (latest "org/app") ⟨⟨6, []⟩, []⟩

def otherCall : Call (Service.Session Request) :=
  call generous "https" (latest "org/other") appCall.after

/-- The token given out for one repository is not shown in the name of another. -/
theorem tokens_scoped_generous :
    calls generous "https" [latest "org/app", latest "org/other"] ⟨⟨6, []⟩, []⟩ =
        [appCall] ++ otherCall :: [] ∧
      appCall.sent.map (fun exchange => exchange.request.authorization) =
        [none, none, some "Bearer abc"] ∧
      ∀ exchange rest, otherCall.sent = exchange :: rest → exchange.isForToken = false →
        exchange.request.authorization = none := by
  have hsplit : calls generous "https" [latest "org/app", latest "org/other"] ⟨⟨6, []⟩, []⟩ =
      [appCall] ++ otherCall :: [] := rfl
  have hscoped := tokens_scoped generous "https" _ _ hsplit
  refine ⟨hsplit, by decide +kernel, fun exchange rest hsent hkind => ?_⟩
  obtain ⟨-, hauthorization⟩ := hscoped.manifests [] exchange rest hsent hkind
  have hscope : appCall.request.scope ≠ otherCall.request.scope := by decide
  rw [hauthorization, History.token?_append_events, if_pos rfl, history_singleton,
    ← List.nil_append (events _ _), History.token?_append_events, if_neg hscope]
  rfl

end BuildProvenance.Http
