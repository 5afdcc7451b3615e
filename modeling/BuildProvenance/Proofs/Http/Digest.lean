import BuildProvenance.Proofs.Http.Exchange
import BuildProvenance.Proofs.Image.Walk
import Mathlib.Tactic

/-!
# Manifests that are asked for by digest

The body that is served for a digest has to have it.  The digest that the
manifest is then known by is the one that the registry names besides the body,
if it names one.  The two agree as long as the registry names no other digest
than the one it was asked for.
-/

namespace BuildProvenance.Http

variable {σ : Type} {transport : Transport σ} {scheme url : String} {request : ManifestRequest}
  {session after : Session σ} {manifest : Manifest} {response : Response}

/-- The reference is a digest. -/
def Pinned (reference : String) : Prop := reference.startsWith "sha256:" = true

/-- The digest that an answer to a request for this reference goes by. -/
def Response.digest (response : Response) (reference : String) : String :=
  (response.header? "Docker-Content-Digest").getD reference

/-- The registry names no other digest than the reference. -/
def Response.Agrees (response : Response) (reference : String) : Prop :=
  ∀ named, response.header? "Docker-Content-Digest" = some named → named = reference

theorem Response.digest_eq_iff {reference : String} :
    response.digest reference = reference ↔ response.Agrees reference := by
  unfold Response.digest Response.Agrees
  cases response.header? "Docker-Content-Digest" with
  | none => simp
  | some named => simp

theorem readManifest_of_pinned (hpinned : Pinned request.reference)
    (hread : readManifest url request response = .ok manifest) :
    request.reference = digestOf response.body ∧ manifest.body = response.body ∧
      manifest.digest = response.digest request.reference := by
  unfold readManifest at hread
  split at hread
  next hrefused => cases hread
  next hsuccess =>
    dsimp only at hread
    split at hread
    next hmismatch => cases hread
    next hmatches =>
      have hreference : request.reference = digestOf response.body :=
        not_not.mp (not_and.mp hmatches hpinned)
      cases hread
      refine ⟨hreference, rfl, ?_⟩
      rw [Response.digest, hreference]

/-- What a registry serves for a digest has it. -/
theorem exists_response_of_pinned (hpinned : Pinned request.reference)
    (hfetch : fetchManifest transport scheme request session = (.ok manifest, after)) :
    request.reference = digestOf manifest.body ∧ ∃ sent response,
      Adds (fetchManifest transport.logged scheme request) session sent (.ok manifest) after ∧
      EndsWith sent scheme request response ∧ response.body = manifest.body ∧
      manifest.digest = response.digest request.reference := by
  obtain ⟨sent, granted, hadds, -, -, hends⟩ := fetchManifest_adds hfetch
  obtain ⟨response, hend, hread⟩ := hends manifest rfl
  obtain ⟨hreference, hbody, hdigest⟩ := readManifest_of_pinned hpinned hread
  rw [hbody]
  exact ⟨hreference, sent, response, hadds, hend, rfl, hdigest⟩

section Headers

variable {status : ℕ} {name other value : String} {headers : List (String × String)}
  {body : ByteArray}

theorem Response.header?_cons_self (hplain : isPlain value = true) :
    (⟨status, (name, value) :: headers, body⟩ : Response).header? name = some value := by
  simp [Response.header?, hplain]

theorem Response.header?_cons_of_ne (hne : (other.toLower == name.toLower) = false) :
    (⟨status, (other, value) :: headers, body⟩ : Response).header? name =
      (⟨status, headers, body⟩ : Response).header? name := by
  simp [Response.header?, hne]

end Headers

end BuildProvenance.Http

namespace BuildProvenance.ImageReference

open Http

variable {σ : Type} {transport : Transport σ} {scheme : String} {image : ImageReference}

/-- What was asked for by digest was served with it, and is recorded under the digest that
the registry names. -/
structure Checked (scheme : String) (image : ImageReference) (walk : ManifestWalk)
    (log : List Exchange) (asked : List ManifestRequest) : Prop where
  started : walk = ManifestWalk.start image.reference ∨
    ⟨image.registry, image.apiRepository, image.reference⟩ ∈ asked
  recorded : ∀ request ∈ asked, Pinned request.reference →
    ∃ exchange ∈ log, ∃ token response, exchange.ForManifest scheme request token ∧
      exchange.answer = .ok response ∧ request.reference = digestOf response.body ∧
        response.digest request.reference ∈ walk.recorded

theorem Checked.absorb {walk begun absorbed : ManifestWalk} {reference : String}
    {log : List Exchange} {asked : List ManifestRequest} {manifest : Manifest}
    {sent : List Exchange} {url : String} {response : Response}
    (hchecked : Checked scheme image walk log asked)
    (hnext : walk.next? = some (reference, begun))
    (hends : EndsWith sent scheme ⟨image.registry, image.apiRepository, reference⟩ response)
    (hread : readManifest url ⟨image.registry, image.apiRepository, reference⟩ response =
      .ok manifest)
    (habsorb : begun.absorb manifest = .ok absorbed) :
    Checked scheme image absorbed (log ++ sent)
      (asked ++ [⟨image.registry, image.apiRepository, reference⟩]) := by
  obtain ⟨-, skipped, rest, hqueue, -, hbegun⟩ := ManifestWalk.next?_eq_some hnext
  have hsame : begun.recorded = walk.recorded := by rw [hbegun]
  obtain ⟨hserved, hgrows⟩ := ManifestWalk.recorded_of_absorb habsorb
  rw [hsame] at hgrows
  constructor
  case started =>
    right
    rw [List.mem_append, List.mem_singleton]
    rcases hchecked.started with rfl | hasked
    · -- the first reference of a walk is that of the image
      have hroot : reference = image.reference := by
        have hmem : reference ∈ [image.reference] := by
          rw [show [image.reference] = _ from hqueue]
          simp
        exact List.mem_singleton.mp hmem
      rw [hroot]
      exact Or.inr rfl
    · exact Or.inl hasked
  case recorded =>
    intro request hmem hpinned
    rcases List.mem_append.mp hmem with hbefore | hlast
    · obtain ⟨exchange, hlogged, token, response, hfor, hanswer, hreference, hrecorded⟩ :=
        hchecked.recorded request hbefore hpinned
      exact ⟨exchange, List.mem_append_left _ hlogged, token, response, hfor, hanswer,
        hreference, hgrows _ hrecorded⟩
    · rw [List.mem_singleton.mp hlast] at hpinned ⊢
      obtain ⟨earlier, exchange, token, rfl, hfor, hanswer⟩ := hends
      obtain ⟨hreference, -, hdigest⟩ := readManifest_of_pinned hpinned hread
      refine ⟨exchange, by simp, token, response, hfor, hanswer, hreference, ?_⟩
      rw [← hdigest]
      exact hserved

/-- A snapshot is the same with a log and an account of the manifests that are asked for. -/
theorem exists_snap_logged {session after : Session σ} {snapshot : Snapshot}
    (hsnap : image.snap (registryClient transport scheme) session = (.ok snapshot, after)) :
    ∃ log asked, image.snap (registryClient transport.logged scheme).recorded
      (session.withLog [], []) = (.ok snapshot, (after.withLog log, asked)) := by
  have hask : ∀ (question : ManifestRequest) (session : Session σ) (answer : Manifest)
      (later : Session σ) (begun : Session (σ × List Exchange) × List ManifestRequest),
      (∃ log asked, begun = (session.withLog log, asked)) →
      (registryClient transport scheme).ask question session = (.ok answer, later) →
        ∃ follow, (registryClient transport.logged scheme).recorded.ask question begun =
          (.ok answer, follow) ∧ ∃ log asked, follow = (later.withLog log, asked) := by
    rintro question session answer later begun ⟨log, asked, rfl⟩ hasked
    rw [ask_registryClient] at hasked
    obtain ⟨sent, granted, hadds, -⟩ := fetchManifest_adds hasked
    have hlogged : (registryClient transport.logged scheme).ask question (session.withLog log) =
        (.ok answer, later.withLog (log ++ sent)) := by
      rw [ask_registryClient]
      exact hadds log
    exact ⟨_, Client.ask_recorded hlogged asked, _, _, rfl⟩
  obtain ⟨follow, hfollow, log, asked, rfl⟩ :=
    exists_snap_of_ask (fun session begun => ∃ log asked, begun = (session.withLog log, asked))
      hask ⟨[], [], rfl⟩ hsnap
  exact ⟨log, asked, hfollow⟩

/-- What a registry serves for a digest has it.  It is recorded under the digest that the
registry names, which is the same one unless the registry names another. -/
theorem pinned_digest_of_agrees (transport : Transport σ) (scheme : String) :
    (∀ request session manifest after, Pinned request.reference →
      fetchManifest transport scheme request session = (.ok manifest, after) →
        request.reference = digestOf manifest.body ∧
        ∃ sent response,
          Adds (fetchManifest transport.logged scheme request) session sent (.ok manifest)
            after ∧
          EndsWith sent scheme request response ∧ response.body = manifest.body ∧
          manifest.digest = response.digest request.reference ∧
          (manifest.digest = request.reference ↔ response.Agrees request.reference)) ∧
    ∀ (image : ImageReference) session snapshot after,
      image.snap (registryClient transport scheme) session = (.ok snapshot, after) →
        ∃ log asked, image.snap (registryClient transport.logged scheme).recorded
            (session.withLog [], []) = (.ok snapshot, (after.withLog log, asked)) ∧
          ⟨image.registry, image.apiRepository, image.reference⟩ ∈ asked ∧
          ∀ request ∈ asked, Pinned request.reference →
            ∃ exchange ∈ log, ∃ token response, exchange.ForManifest scheme request token ∧
              exchange.answer = .ok response ∧ request.reference = digestOf response.body ∧
              snapshot.contains (response.digest request.reference) = true ∧
              (response.Agrees request.reference →
                snapshot.get? request.reference = some (image.artifact request.reference)) := by
  refine ⟨?fetched, ?snapped⟩
  case fetched =>
    intro request session manifest after hpinned hfetch
    obtain ⟨hreference, sent, response, hadds, hends, hbody, hdigest⟩ :=
      exists_response_of_pinned hpinned hfetch
    refine ⟨hreference, sent, response, hadds, hends, hbody, hdigest, ?_⟩
    rw [hdigest, Response.digest_eq_iff]
  case snapped =>
    intro image session snapshot after hsnap
    obtain ⟨log, asked, hlogged⟩ := exists_snap_logged hsnap
    obtain ⟨digests, hrun, hkeys⟩ := exists_run_of_snap hlogged
    have hstep : ∀ walk reference begun
        (state : Session (σ × List Exchange) × List ManifestRequest) manifest later absorbed,
        Checked scheme image walk state.1.transport.2 state.2 →
        walk.next? = some (reference, begun) →
        (registryClient transport.logged scheme).recorded.ask
          ⟨image.registry, image.apiRepository, reference⟩ state = (.ok manifest, later) →
        begun.absorb manifest = .ok absorbed →
          Checked scheme image absorbed later.1.transport.2 later.2 := by
      intro walk reference begun state manifest later absorbed hchecked hnext hasked habsorb
      obtain ⟨hfetch, hlater⟩ := Client.of_ask_recorded hasked
      rw [ask_registryClient] at hfetch
      obtain ⟨sent, response, hlog, hends, hread⟩ := exists_log_of_fetchManifest hfetch
      rw [hlog, hlater]
      exact hchecked.absorb hnext hends hread habsorb
    have hstart : Checked scheme image (ManifestWalk.start image.reference) [] [] :=
      ⟨Or.inl rfl, fun _ hmem => absurd hmem List.not_mem_nil⟩
    obtain ⟨final, hchecked, hnext, rfl⟩ := ManifestWalk.exists_final_of_run
      (fun walk state => Checked scheme image walk state.1.transport.2 state.2)
      hstep hstart hrun
    refine ⟨log, asked, hlogged, ?_, ?_⟩
    · rcases hchecked.started with rfl | hroot
      · cases ManifestWalk.next?_eq_none hnext image.reference List.mem_cons_self
      · exact hroot
    · intro request hmem hpinned
      obtain ⟨exchange, hexchange, token, response, hfor, hanswer, hreference, hkey⟩ :=
        hchecked.recorded request hmem hpinned
      have hget : snapshot.get? (response.digest request.reference) =
          some (image.artifact (response.digest request.reference)) :=
        (hkeys _ _).mpr ⟨List.mem_reverse.mpr hkey, rfl⟩
      refine ⟨exchange, hexchange, token, response, hfor, hanswer, hreference,
        SortedMap.contains_iff.mpr ⟨_, hget⟩, fun hagrees => ?_⟩
      rwa [Response.digest_eq_iff.mpr hagrees] at hget

/-! An image without layers, served under whatever digest. -/

def unlayered (named : String) : Response where
  status := 200
  headers := [("Docker-Content-Digest", named)]
  body := "\x7b\"config\":\x7b\"digest\":\"c\"\x7d\x7d".toUTF8

def pinned : ImageReference where
  registry := "registry.example"
  repository := "registry.example/org"
  image := "app"
  reference := "sha256:e656c0d93d42877d99a13baf931949a64997dcc64300ce2bb66d21798d7ea8d0"

def pinnedRequest : ManifestRequest :=
  ⟨pinned.registry, pinned.apiRepository, pinned.reference⟩

def answering (response : Response) : Transport (Service.Session Request) :=
  Service.client fun _ => .ok response

/-- One answer is enough. -/
def fresh : Session (Service.Session Request) := ⟨⟨1, []⟩, []⟩

variable {named : String}

theorem pinned_reference : Pinned pinned.reference := by
  unfold Pinned
  decide +kernel

theorem reference_eq_digestOf : pinned.reference = digestOf (unlayered named).body := by
  show pinned.reference = digestOf "\x7b\"config\":\x7b\"digest\":\"c\"\x7d\x7d".toUTF8
  decide +kernel

theorem header?_unlayered (hplain : Response.isPlain named = true) :
    (unlayered named).header? "Content-Type" = none ∧
      (unlayered named).header? "Docker-Content-Digest" = some named :=
  ⟨Response.header?_cons_of_ne (by decide +kernel), Response.header?_cons_self hplain⟩

theorem readManifest_unlayered (hplain : Response.isPlain named = true) (url : String) :
    readManifest url pinnedRequest (unlayered named) =
      .ok ⟨named, "", (unlayered named).body⟩ := by
  obtain ⟨htype, hdigest⟩ := header?_unlayered hplain
  have hstatus : isSuccess (unlayered named).status = true := by
    show isSuccess 200 = true
    decide
  unfold readManifest
  rw [if_neg (by simp [hstatus]),
    if_neg (fun hmismatch => hmismatch.2 reference_eq_digestOf), htype, hdigest]
  rfl

theorem document_unlayered : (⟨named, "", (unlayered named).body⟩ : Manifest).document =
    .ok ⟨none, some "c", [], []⟩ := by
  have hbody : (⟨"", "", (unlayered "").body⟩ : Manifest).document =
      .ok ⟨none, some "c", [], []⟩ :=
    Result.toOption_eq_some_iff.mp (by decide +kernel)
  refine Manifest.document_of_body ?_ hbody
  rfl

theorem exists_fetch_unlayered (hplain : Response.isPlain named = true) :
    ∃ after, fetchManifest (answering (unlayered named)) "https" pinnedRequest fresh =
      (.ok ⟨named, "", (unlayered named).body⟩, after) := by
  have hhttps : (Url.parse (manifestUrl "https" pinnedRequest)).toOption.map Url.scheme =
      some "https".toList := by
    decide +kernel
  obtain ⟨target, htarget, hscheme⟩ := Option.map_eq_some_iff.mp hhttps
  have hparse : Url.parse (manifestUrl "https" pinnedRequest) = .ok target := by
    cases hparse : Url.parse (manifestUrl "https" pinnedRequest) with
    | error failure =>
        rw [hparse] at htarget
        cases htarget
    | ok found =>
        rw [hparse] at htarget
        cases htarget
        rfl
  have hrequest : requestManifest (answering (unlayered named))
      (manifestUrl "https" pinnedRequest) none fresh =
        (.ok (unlayered named), ⟨⟨0, [⟨target, none, some manifestTypes⟩]⟩, []⟩) := by
    unfold requestManifest send
    rw [hparse]
    simp only [Action.within, hscheme]
    rfl
  refine ⟨⟨⟨0, [⟨target, none, some manifestTypes⟩]⟩, []⟩, ?_⟩
  unfold fetchManifest
  dsimp only
  rw [show fresh.token? pinnedRequest.registry pinnedRequest.repository = none from rfl, hrequest]
  show (readManifest (manifestUrl "https" pinnedRequest) pinnedRequest (unlayered named), _) = _
  rw [readManifest_unlayered hplain]

theorem exists_snap_unlayered (hplain : Response.isPlain named = true) :
    ∃ snapshot after,
      pinned.snap (registryClient (answering (unlayered named)) "https") fresh =
        (.ok snapshot, after) ∧
      ∀ key, snapshot.contains key = true ↔ key = named ∨ key = "c" := by
  obtain ⟨after, hfetch⟩ := exists_fetch_unlayered hplain
  have hasked : (registryClient (answering (unlayered named)) "https").ask
      ⟨pinned.registry, pinned.apiRepository, pinned.reference⟩ fresh =
        (.ok ⟨named, "", (unlayered named).body⟩, after) := by
    rw [ask_registryClient]
    exact hfetch
  have himage : (⟨none, some "c", [], []⟩ : ManifestDocument).isIndex "" = false := by decide
  obtain ⟨snapshot, hsnap, hkeys⟩ :=
    exists_snap_of_image hasked ⟨document_unlayered, Or.inr rfl⟩ himage
  refine ⟨snapshot, after, hsnap, fun key => ?_⟩
  rw [hkeys, Manifest.mem_named_iff]
  simp [himage, ManifestDocument.blobs]

/-- A registry that names another digest besides the body has the image recorded under that
one, and not under the digest that it was asked for. -/
theorem recorded_under_other_digest :
    Pinned pinned.reference ∧ pinned.reference = digestOf (unlayered "sha256:other").body ∧
      (∃ after, fetchManifest (answering (unlayered "sha256:other")) "https" pinnedRequest fresh =
        (.ok ⟨"sha256:other", "", (unlayered "sha256:other").body⟩, after)) ∧
      ∃ snapshot after,
        pinned.snap (registryClient (answering (unlayered "sha256:other")) "https") fresh =
          (.ok snapshot, after) ∧
        snapshot.contains "sha256:other" = true ∧ snapshot.contains pinned.reference = false := by
  have hplain : Response.isPlain "sha256:other" = true := by decide +kernel
  obtain ⟨snapshot, after, hsnap, hkeys⟩ := exists_snap_unlayered hplain
  refine ⟨pinned_reference, reference_eq_digestOf, exists_fetch_unlayered hplain, snapshot, after,
    hsnap, (hkeys _).mpr (Or.inl rfl), Bool.eq_false_iff.mpr fun hkey => ?_⟩
  rcases (hkeys _).mp hkey with heq | heq
  · exact absurd heq (by decide)
  · exact absurd heq (by decide)

theorem pinned_digest_of_agrees_unlayered :
    ∃ manifest fetched snapshot after, ∃ response : Response,
      fetchManifest (answering (unlayered pinned.reference)) "https" pinnedRequest fresh =
        (.ok manifest, fetched) ∧
      pinned.snap (registryClient (answering (unlayered pinned.reference)) "https") fresh =
        (.ok snapshot, after) ∧
      pinned.reference = digestOf manifest.body ∧ pinned.reference = digestOf response.body ∧
      snapshot.contains (response.digest pinned.reference) = true := by
  have hplain : Response.isPlain pinned.reference = true := by decide +kernel
  obtain ⟨fetched, hfetch⟩ := exists_fetch_unlayered hplain
  obtain ⟨snapshot, after, hsnap, -⟩ := exists_snap_unlayered hplain
  obtain ⟨hpinned, hrecorded⟩ :=
    pinned_digest_of_agrees (answering (unlayered pinned.reference)) "https"
  obtain ⟨hreference, -⟩ := hpinned pinnedRequest fresh _ fetched pinned_reference hfetch
  obtain ⟨log, asked, -, hroot, hkeys⟩ := hrecorded pinned fresh snapshot after hsnap
  obtain ⟨exchange, -, token, response, -, -, hserved, hkey, -⟩ :=
    hkeys _ hroot pinned_reference
  exact ⟨_, fetched, snapshot, after, response, hfetch, hsnap, hreference, hserved, hkey⟩

end BuildProvenance.ImageReference
