import ServicePlane.CommandLine.Operator
import ServicePlane.Proofs.Http.Address
import ServicePlane.Proofs.Operator.Put

/-!
# An override from the command line

The operator's program puts two words into a request: the first becomes a part of the address, as it
stands, and the second a text of the content, quoted. The plane takes the request apart again. This
file follows both words all the way, from the arguments of the program to the override that is set.

* `parse_of_gives`, `commandOf_override_iff` — the call that the arguments make;
* `request_eq_ok_iff` — the request that the call sends;
* `Addresses` — the address that is made of a word leads to a service;
* `addresses_iff_of_plain` — it does so only by the name of the service, if the word is plain;
* `operate_override` — whole runs.
-/

namespace ServicePlane

open Http

/-! ## Arguments -/

namespace Arguments

variable {argument : String} {words given : List String} {most : Nat}

theorem word_of_not_option (h : looksLikeOption argument = false) (options : List OptionSpec) :
    word options argument = .plain := by
  unfold looksLikeOption at h
  unfold word
  grind

/-- Reading plain arguments leaves out two hyphens, or nothing. -/
theorem readPlain_length (h : readPlain most words = .ok given) :
    given = words ∨ given.length + 1 = words.length := by
  fun_induction readPlain most words generalizing given with
  | case1 most =>
      cases h
      exact .inl rfl
  | case3 most argument rest hword hshort =>
      cases h
      exact .inr rfl
  | case7 argument rest hword most ih =>
      cases hrest : readPlain most rest with
      | error reason =>
          rw [hrest] at h
          cases h
      | ok later =>
          rw [hrest] at h
          cases h
          rcases ih hrest with rfl | hlength
          · exact .inl rfl
          · exact .inr (congrArg Nat.succ hlength)
  | _ =>
      -- In the other cases the reading stops.
      cases h

theorem readPlain_of_not_option (h : ∀ argument ∈ words, looksLikeOption argument = false)
    (hmost : words.length ≤ most) : readPlain most words = .ok words := by
  induction words generalizing most with
  | nil =>
      simp [readPlain]
  | cons argument rest ih =>
      cases most with
      | zero =>
          cases hmost
      | succ most =>
          have hrest : readPlain most rest = .ok rest :=
            ih (fun word hword => h word (List.mem_cons_of_mem argument hword))
              (Nat.le_of_succ_le_succ hmost)
          have hword := word_of_not_option (h argument List.mem_cons_self) []
          simp [readPlain, hword, hrest, bind, Except.bind, pure, Except.pure]

end Arguments

namespace OperatorCall

/-- The options in front of the words give this address and this key, or leave them at what is used
otherwise. -/
def Gives (arguments : List String) (url key : String) (words : List String) : Prop :=
  ∃ values, Arguments.read options [] arguments = .ok ⟨values, words, false⟩ ∧
    (values.lookup "url").getD standardUrl = url ∧
    (values.lookup "key").getD standardKey = key

/-- The words are these two, or are read as these two because two hyphens stand beside them. -/
def Spells (words : List String) (s m : String) : Prop :=
  words = [s, m] ∨ Arguments.readPlain 2 words = .ok [s, m]

variable {arguments words : List String} {url key s m address : String} {command : OperatorCommand}
  {call : OperatorCall} {r : Request} {service : Service} {mode : OverrideMode}

theorem parse_of_gives (h : Gives arguments url key ("override" :: words)) :
    parse arguments = (commandOf "override" words).map fun command => ⟨url, key, command⟩ := by
  rcases h with ⟨values, hread, rfl, rfl⟩
  have hname : "override" ≠ "help" := by
    decide
  simp only [parse, hread, bind, Except.bind, Bool.false_eq_true, if_false, if_neg hname]
  cases commandOf "override" words <;> rfl

theorem commandOf_override_iff :
    commandOf "override" words = .ok command ↔
      ∃ s m, Arguments.readPlain 2 words = .ok [s, m] ∧ command = .setOverride s m := by
  have hmost : commands.lookup "override" = some 2 := rfl
  simp only [commandOf, hmost, bind, Except.bind]
  cases hread : Arguments.readPlain 2 words with
  | error reason =>
      simp
  | ok given =>
      rcases given with _ | ⟨s, _ | ⟨m, _ | ⟨_, _⟩⟩⟩ <;>
        simp [pure, Except.pure, throw, throwThe, MonadExceptOf.throw, eq_comm (a := command)]

theorem command_of_spells (hwords : Spells words s m)
    (h : commandOf "override" words = .ok command) : command = .setOverride s m := by
  rcases commandOf_override_iff.1 h with ⟨s', m', hread, rfl⟩
  rcases hwords with rfl | hwords
  · -- Two words remain of two words only if nothing is left out.
    rcases Arguments.readPlain_length hread with heq | hlength
    · cases heq
      rfl
    · simp at hlength
  · rw [hwords] at hread
    cases hread
    rfl

/-! ## The request -/

/-- A call for an override is sent to the target of the address that is made of the service, if
there is such an address and the key can stand in a header. -/
theorem request_eq_ok_iff :
    request ⟨url, key, .setOverride s m⟩ = .ok (address, r) ↔
      isUsableKey key = true ∧
        ∃ u, Url.parse? (url ++ path (.setOverride s m)) = some u ∧ u.secure = false ∧
          address = u.address ∧ r = overrideRequest key u.target m := by
  rw [request]
  by_cases hkey : isUsableKey key = true
  · cases hparse : Url.parse? (url ++ path (.setOverride s m)) with
    | none =>
        simp [hkey]
    | some u =>
        cases hsecure : u.secure <;>
          simp [hkey, hsecure, overrideRequest, method, content?, eq_comm (a := address),
            eq_comm (a := r)]
  · simp [hkey]

/-! ## Addresses -/

/-- The address that is made of this text leads to the path of the override of the service. -/
def Addresses (url s : String) (service : Service) : Prop :=
  ∃ u part, Url.parse? (url ++ ("/admin/services/" ++ s ++ "/override")) = some u ∧
    u.secure = false ∧ u.path = "/admin/services/" ++ part ++ "/override" ∧ '/' ∉ part.toList ∧
    percentDecoded? part = some service.name

/-- The path that a plain word makes: that of an override, unless the word stands for a place. -/
theorem pathOf_override {s part : String} (hs : ∀ c ∈ s.toList, IsPlain c)
    (hpart : Url.encoded s.toList = part) :
    Url.pathOf ("admin/services/" ++ s ++ "/override").toList =
      if Url.isEnclosingPlace part then "/admin/override"
      else if Url.isSamePlace part then "/admin/services/override"
      else "/admin/services/" ++ part ++ "/override" := by
  have htext : ("admin/services/" ++ s ++ "/override").toList =
      "admin".toList ++ '/' ::
        ("services".toList ++ '/' :: (s.toList ++ '/' :: "override".toList)) := by
    simp
  have hgiven : Url.givenParts ("admin/services/" ++ s ++ "/override").toList =
      ["admin", "services", part, "override"] := by
    rw [htext, Url.givenParts_append, Url.givenParts_append, Url.givenParts_append,
      Url.givenParts_of_plain hs, hpart]
    rfl
  rw [Url.pathOf, hgiven, Url.resolveParts_cons (by decide +kernel) (by decide +kernel),
    Url.resolveParts_cons (by decide +kernel) (by decide +kernel)]
  by_cases henclosing : Url.isEnclosingPlace part = true
  · rw [if_pos henclosing, Url.resolveParts, if_pos henclosing]
    decide +kernel
  · rw [if_neg henclosing]
    by_cases hsame : Url.isSamePlace part = true
    · rw [if_pos hsame, Url.resolveParts, if_neg henclosing, if_pos hsame]
      decide +kernel
    · rw [if_neg hsame, Url.resolveParts_cons (by simpa using henclosing) (by simpa using hsame),
        Url.resolveParts_cons (by decide +kernel) (by decide +kernel)]
      simp [Url.resolveParts, ← String.toList_inj]

/-- Behind the address of a host, a plain text leads to the override of a service only if it is the
name of the service. -/
theorem addresses_iff_of_plain {url s : String} (hurl : NamesHost url)
    (hs : ∀ c ∈ s.toList, IsPlain c) (service : Service) :
    Addresses url s service ↔ s = service.name := by
  have htext : ("admin/services/" ++ s ++ "/override").toList =
      ("admin/services/" ++ s ++ "/overrid").toList ++ ['e'] := by
    simp
  have hkept : ∀ c ∈ ("admin/services/" ++ s ++ "/override").toList,
      c ≠ '?' ∧ c ≠ '#' ∧ c ≠ '\t' ∧ c ≠ '\n' ∧ c ≠ '\r' := by
    simp only [String.toList_append, List.forall_mem_append]
    exact ⟨⟨by simp, fun c hc => (hs c hc).kept⟩, by simp⟩
  obtain ⟨u, hparse, hsecure, hpath⟩ := Url.exists_parse?_of_namesHost htext (by decide) hkept hurl
  have hassoc : url ++ ("/admin/services/" ++ s ++ "/override") =
      url ++ "/" ++ ("admin/services/" ++ s ++ "/override") := by
    simp [← String.toList_inj]
  have hdecoded : percentDecoded? (Url.encoded s.toList) = some s := by
    rw [percentDecoded?_encoded fun h => hs '%' h (by simp), String.ofList_toList]
  rw [← hassoc] at hparse
  rw [pathOf_override hs rfl] at hpath
  constructor
  · rintro ⟨_, part, hparse', _, hpath', _, hpart⟩
    cases hparse.symm.trans hparse'
    rw [hpath] at hpath'
    -- A text that stands for a place leaves a path that is too short.
    split at hpath'
    · simp [← String.toList_inj] at hpath'
    · split at hpath'
      · have hlength := congrArg (fun text => text.toList.length) hpath'
        simp at hlength
      · have hsame : Url.encoded s.toList = part := by
          simpa [← String.toList_inj] using hpath'
        rw [← hsame, hdecoded] at hpart
        exact Option.some.inj hpart
  · rintro rfl
    -- The name of a service stands for no place, so that it stays where it is.
    have hplace : ∀ service : Service,
        Url.isEnclosingPlace (Url.encoded service.name.toList) = false ∧
          Url.isSamePlace (Url.encoded service.name.toList) = false := by
      intro service
      cases service <;> decide +kernel
    have hslash : '/' ∉ (Url.encoded service.name.toList).toList :=
      Url.slash_notMem_encoded fun hmem => hs '/' hmem (by simp)
    refine ⟨u, Url.encoded service.name.toList, hparse, hsecure, ?_, hslash, hdecoded⟩
    simp [hpath, hplace service]

/-! ## Runs -/

/-- At every address the operator interface of a plane answers, under this key. -/
def answering (key : String) (_address : String) (request : Request) (p : Plane) :
    Option Response × Plane :=
  (some (p.serveOperator key request).1, (p.serveOperator key request).2)

/-- The key comes through in a header as it is: it is not empty, and all of it is printable ASCII
without blanks. -/
def IsHeaderKey (key : String) : Prop :=
  key ≠ "" ∧ ∀ c ∈ key.toList, 0x20 < c.toNat ∧ c.toNat < 0x7F

theorem operate_of_stopped {reason : ArgumentStop} (p : Plane)
    (h : parse arguments = .error reason) :
    operate (answering key) arguments p = (.stopped reason, p) := by
  simp [operate, h]

theorem operate_of_unsent {e : OperatorError} (p : Plane) (hparse : parse arguments = .ok call)
    (h : call.request = .error e) :
    operate (answering key) arguments p = (.failed e, p) := by
  simp [operate, hparse, h]

theorem operate_of_success {v : Json} (p : Plane) (hparse : parse arguments = .ok call)
    (h : call.request = .ok (address, r))
    (hanswer : (p.serveOperator key r).1 = .ofJson v) :
    operate (answering key) arguments p = (.done v, (p.serveOperator key r).2) := by
  have hconclude : conclude (some (.ofJson v)) = .ok v := rfl
  simp [operate, hparse, h, answering, hanswer, hconclude]

theorem operate_of_refusal (p : Plane) (hparse : parse arguments = .ok call)
    (h : call.request = .ok (address, r))
    (hanswer : (p.serveOperator key r).1.isSuccess = false) :
    ∃ e, operate (answering key) arguments p =
      (.failed e, (p.serveOperator key r).2) := by
  refine ⟨.refused (p.serveOperator key r).1.status, ?_⟩
  simp [operate, hparse, h, answering, conclude, hanswer]

/-- What is sent to an address sets the override of the service that the address leads to. -/
theorem setsOverride_iff_addresses {u : Url}
    (hparse : Url.parse? (url ++ path (.setOverride s m)) = some u) (hsecure : u.secure = false) :
    SetsOverride service mode (overrideRequest key u.target m) ↔
      Addresses url s service ∧ m = mode.name := by
  rw [Plane.setsOverride_overrideRequest_iff, Url.path_of_parse? hparse rfl]
  refine and_congr_left' ⟨?_, ?_⟩
  · rintro ⟨part, hpath, hslash, hpart⟩
    exact ⟨u, part, hparse, hsecure, hpath, hslash, hpart⟩
  · rintro ⟨_, part, hparse', _, hpath, hslash, hpart⟩
    cases hparse.symm.trans hparse'
    exact ⟨part, hpath, hslash, hpart⟩

/-- A run for an override either sets one and shows the view of the service, or fails and does
nothing. -/
theorem operate_override_cases (p : Plane) (hgiven : Gives arguments url key ("override" :: words))
    (hwords : Spells words s m) :
    (∃ service mode q, Addresses url s service ∧ m = mode.name ∧
      operate (answering key) arguments p =
        (.done ((p.setOverride service mode).2.view service).toJson, q) ∧
      (p.setOverride service mode).2.Undisturbed q) ∨
    ∃ outcome q, operate (answering key) arguments p = (outcome, q) ∧
      (∀ v, outcome ≠ .done v) ∧ p.Undisturbed q := by
  have hparse := parse_of_gives hgiven
  cases hcommand : commandOf "override" words with
  | error reason =>
      rw [hcommand] at hparse
      exact .inr ⟨_, _, operate_of_stopped p hparse, nofun, .refl p⟩
  | ok command =>
      obtain rfl := command_of_spells hwords hcommand
      rw [hcommand] at hparse
      cases hrequest : request ⟨url, key, .setOverride s m⟩ with
      | error e =>
          exact .inr ⟨_, _, operate_of_unsent p hparse hrequest, nofun, .refl p⟩
      | ok sent =>
          rcases sent with ⟨address, r⟩
          -- From here on the plane decides: what it refuses makes the program fail.
          obtain ⟨_, u, hurl, hsecure, _, rfl⟩ := request_eq_ok_iff.1 hrequest
          rcases p.serveOperator_put_cases key (rfl : (overrideRequest key u.target m).method = _)
            with ⟨service, mode, hset, hanswer, hstate⟩ | ⟨hrefused, hstate⟩
          · rcases (setsOverride_iff_addresses hurl hsecure).1 hset with ⟨haddress, hmode⟩
            exact .inl ⟨service, mode, _, haddress, hmode,
              operate_of_success p hparse hrequest hanswer, hstate⟩
          · rcases operate_of_refusal p hparse hrequest hrefused with ⟨e, hrun⟩
            exact .inr ⟨_, _, hrun, nofun, hstate⟩

/-- Where the words are accepted and the key comes through, a run for the override of a service that
the address leads to is done. -/
theorem operate_of_addresses (p : Plane) (hgiven : Gives arguments url key ("override" :: words))
    (hwords : Arguments.readPlain 2 words = .ok [s, mode.name]) (hkey : IsHeaderKey key)
    (h : Addresses url s service) :
    ∃ v, (operate (answering key) arguments p).1 = .done v := by
  rcases h with ⟨u, part, hurl, hsecure, hpath⟩
  have hparse : parse arguments = .ok ⟨url, key, .setOverride s mode.name⟩ := by
    rw [parse_of_gives hgiven, commandOf_override_iff.2 ⟨s, mode.name, hwords, rfl⟩]
    rfl
  -- The program accepts the key for a header, and the plane accepts the header.
  have husable : isUsableKey key = true := by
    rw [isUsableKey, List.all_eq_true]
    intro c hc
    have hprintable := hkey.2 c hc
    have hne : c.toNat ≠ 0x7F := by
      omega
    simp [hne, hprintable.1.le]
  have hrequest : request ⟨url, key, .setOverride s mode.name⟩ =
      .ok (u.address, overrideRequest key u.target mode.name) :=
    request_eq_ok_iff.2 ⟨husable, u, hurl, hsecure, rfl, rfl⟩
  have hhas : HasKey key (overrideRequest key u.target mode.name) := by
    rw [Plane.hasKey_overrideRequest_iff]
    intro c hc
    have hprintable := hkey.2 c hc
    omega
  have hset : SetsOverride service mode (overrideRequest key u.target mode.name) :=
    (setsOverride_iff_addresses hurl hsecure).2 ⟨⟨u, part, hurl, hsecure, hpath⟩, rfl⟩
  rw [operate_of_success p hparse hrequest (p.serveOperator_of_override hhas hset).1]
  exact ⟨_, rfl⟩

/-- Whatever the words are, a run for an override is done only if the address that is made of the
first leads to a service and the second is the name of a mode, and then it has set this override and
nothing else; otherwise it fails and does nothing. It is done in all these cases if the words are no
options and the key comes through. Behind the address of a host, a plain word leads to a service
only by its name; this does not hold of other words, which take part in the address. -/
theorem operate_override (p : Plane) (hgiven : Gives arguments url key ("override" :: words))
    (hwords : Spells words s m) :
    let run := operate (answering key) arguments p
    (∀ v, run.1 = .done v → ∃ service mode, Addresses url s service ∧ m = OverrideMode.name mode ∧
      v = ((p.setOverride service mode).2.view service).toJson ∧
      (p.setOverride service mode).2.Undisturbed run.2) ∧
    ((∀ v, run.1 ≠ .done v) → p.Undisturbed run.2) ∧
    (∀ service mode, Addresses url s service → m = OverrideMode.name mode → IsHeaderKey key →
      (words = [s, m] → Arguments.looksLikeOption s = false) → ∃ v, run.1 = .done v) ∧
    (NamesHost url → (∀ c ∈ s.toList, IsPlain c) →
      ∀ service, Addresses url s service ↔ s = service.name) := by
  intro run
  refine ⟨?_, ?_, ?_, addresses_iff_of_plain⟩
  · intro v hdone
    rcases operate_override_cases p hgiven hwords with
      ⟨service, mode, q, haddress, hmode, hrun, hstate⟩ | ⟨outcome, q, hrun, hfails, _⟩
    · have hshown : v = ((p.setOverride service mode).2.view service).toJson := by
        rw [show run = _ from hrun] at hdone
        cases hdone
        rfl
      refine ⟨service, mode, haddress, hmode, hshown, ?_⟩
      rw [show run = _ from hrun]
      exact hstate
    · rw [show run = _ from hrun] at hdone
      exact absurd hdone (hfails v)
  · intro hfails
    rcases operate_override_cases p hgiven hwords with
      ⟨service, mode, q, _, _, hrun, _⟩ | ⟨outcome, q, hrun, _, hstate⟩
    · exact absurd (congrArg Prod.fst hrun) (hfails _)
    · rw [show run = _ from hrun]
      exact hstate
  · rintro service mode haddress rfl hkey hplain
    have hread : Arguments.readPlain 2 words = .ok [s, mode.name] := by
      rcases hwords with rfl | hread
      · have hname : Arguments.looksLikeOption mode.name = false := by
          cases mode <;> decide
        exact Arguments.readPlain_of_not_option (by simp [hplain rfl, hname]) (by simp)
      · exact hread
    exact operate_of_addresses p hgiven hread hkey haddress

/-- A run that forces the service `auth` to count as available does so. -/
theorem operate_override_auth :
    let p := Plane.new .empty (.ofConfigured 2 1) .standard
    let run := operate (answering "secret")
      ["--url", "http://localhost:8081", "-ksecret", "override", "auth", "force_enable"] p
    (∃ v, run.1 = .done v) ∧ (p.setOverride .auth .forceEnable).2.Undisturbed run.2 := by
  intro p run
  have hgiven : Gives
      ["--url", "http://localhost:8081", "-ksecret", "override", "auth", "force_enable"]
      "http://localhost:8081" "secret" ["override", "auth", "force_enable"] :=
    ⟨[("url", "http://localhost:8081"), ("key", "secret")], by decide +kernel, rfl, rfl⟩
  have hhost : NamesHost "http://localhost:8081" :=
    ⟨"localhost:8081".toList, ("localhost", some "8081"), by decide, by simp [Url.isHostChar],
      by decide +kernel⟩
  have hkey : IsHeaderKey "secret" := by
    simp [IsHeaderKey]
  obtain ⟨hdone, _, hruns, haddresses⟩ := operate_override p hgiven (.inl rfl)
  have hplain := haddresses hhost (by simp [IsPlain])
  obtain ⟨v, hv⟩ := hruns .auth .forceEnable ((hplain .auth).2 rfl) rfl hkey (fun _ => by decide)
  refine ⟨⟨v, hv⟩, ?_⟩
  obtain ⟨service, mode, haddress, hmode, _, hstate⟩ := hdone v hv
  obtain rfl : service = .auth := Service.name_injective ((hplain service).1 haddress).symm
  obtain rfl : mode = .forceEnable := by
    cases mode with
    | forceEnable =>
        rfl
    | noOverride =>
        exact absurd hmode (by decide)
    | forceDisable =>
        exact absurd hmode (by decide)
  exact hstate

/-- A word that is no service but ends the path behind one: the run succeeds and sets the override
of that service. -/
theorem operate_override_query :
    let p := Plane.new .empty (.ofConfigured 2 1) .standard
    let run := operate (answering "secret")
      ["-ksecret", "override", "auth/override?", "force_enable"] p
    (∀ service : Service, "auth/override?" ≠ service.name) ∧
      (∃ v, run.1 = .done v) ∧ run.1.exitCode = 0 ∧
      p.registry.isAvailable .auth = false ∧ run.2.registry.isAvailable .auth = true := by
  intro p run
  have hgiven : Gives ["-ksecret", "override", "auth/override?", "force_enable"]
      "http://localhost:8081" "secret" ["override", "auth/override?", "force_enable"] :=
    ⟨[("key", "secret")], by decide +kernel, rfl, rfl⟩
  have haddress : Addresses "http://localhost:8081" "auth/override?" .auth :=
    ⟨⟨false, "localhost", some "8081", "/admin/services/auth/override", "?/override"⟩, "auth",
      by decide +kernel, rfl, by decide +kernel, by decide, by decide +kernel⟩
  have hread : Arguments.readPlain 2 ["auth/override?", "force_enable"] =
      .ok ["auth/override?", OverrideMode.forceEnable.name] := by
    decide +kernel
  have hdone : ∃ v, run.1 = .done v :=
    operate_of_addresses p hgiven hread (by simp [IsHeaderKey]) haddress
  refine ⟨?_, hdone, ?_, ?_, ?_⟩
  · intro service
    cases service <;> decide
  · rcases hdone with ⟨v, hv⟩
    rw [hv]
    rfl
  · decide +kernel
  · decide +kernel

end OperatorCall

end ServicePlane
