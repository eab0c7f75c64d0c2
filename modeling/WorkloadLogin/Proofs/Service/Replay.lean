import WorkloadLogin.Proofs.Service.CallCourses
import WorkloadLogin.Proofs.Service.LoginSpec
import WorkloadLogin.Proofs.SigningSecond

/-! # How long a signature can be replayed

A signed message starts with one second, and a login that accepts its signature happens within a
span around that second which the configuration sets. Neither the layout nor the fraction of the
signing time in the request widens the span, and neither does a bound beyond the calendar.
-/
namespace WorkloadLogin.Service
open SigningTime
variable {σ : Type} {w : World σ} {task : TaskId} {s₁ s₂ s₃ : State σ} {es : List (Exchange σ)}
  {request : LoginRequest} {connection : Option Connection} {c : Credential} {now : Timestamp}
  {config : Config} {signature : String} {data : SignatureData}
  {verdict : Except Verifier.Fault Certificate}

/-- The clock that a successful login read, the configuration that it read and the data whose
signature it had checked are those that its window was checked with. -/
theorem Course.window_of_login_ok (h : Course w task (login request connection).run es (.ok c))
    (hnow : ⟨s₁,.now,now⟩ ∈ es) (hconfig : ⟨s₂,.readConfig,.ok (some config)⟩ ∈ es)
    (hsignature : ⟨s₃,.checkSignature signature data,verdict⟩ ∈ es) :
    ∃ t, parse? request.signingTime = some t ∧ data = ⟨t,request.bundle,request.role⟩ ∧
      config.signingWindow.check ⟨t,0⟩ now = .ok () := by
  obtain ⟨clock,_,t,_,_,_,_,_,inner,rfl,-,-,hparse,hinner⟩ := h.of_login_ok
  obtain ⟨stored,_,_,_,_,_,reached,_,_,rfl,hwindow,hverify,hreach,hcheck,hname,-⟩ :=
    hinner.of_admission_ok
  obtain ⟨_,_,_,_,_,_,rfl⟩ := hverify.of_verify_ok
  obtain ⟨-,_,_,_,_,_,_,rfl,-⟩ := hcheck.of_crossCheck_ok
  obtain ⟨_,_,_,_,_,_,rfl⟩ := hname.of_lookupNames_ok
  have hclock : ⟨s₁,.now,now⟩ ∉ reached := fun hr => hreach.of_getOrConnect_ok _ hr
  have hstored : ⟨s₂,.readConfig,.ok (some config)⟩ ∉ reached :=
    fun hr => hreach.of_getOrConnect_ok _ hr
  have hsigned : ⟨s₃,.checkSignature signature data,verdict⟩ ∉ reached :=
    fun hr => hreach.of_getOrConnect_ok _ hr
  simp [hclock] at hnow
  simp [hstored] at hconfig
  simp [hsigned] at hsignature
  obtain ⟨-,rfl⟩ := hnow
  obtain ⟨-,rfl⟩ := hconfig
  obtain ⟨-,⟨-,rfl⟩,-⟩ := hsignature
  exact ⟨t,hparse,rfl,hwindow⟩

/-- The message of an accepted signature starts with exactly one second. The signing time of the
request lies in it, and the login happened no earlier than the allowed skew before it and less than
the allowed age after its end. -/
theorem replay_span (message : String)
    (h : Course w task (login request connection).run es (.ok c))
    (hnow : ⟨s₁,.now,now⟩ ∈ es) (hutc : now.InUtc)
    (hconfig : ⟨s₂,.readConfig,.ok (some config)⟩ ∈ es)
    (hsignature : ⟨s₃,.checkSignature signature data,verdict⟩ ∈ es)
    (hmessage : data.message = message) :
    ∃ second t, (∀ n, Heads n message ↔ n = second) ∧ parse? request.signingTime = some t ∧
      second * 1000000000 ≤ t.toNanos ∧ t.toNanos < (second + 1) * 1000000000 ∧
      (second - config.maxSecondsNotAfter.toNat) * 1000000000 ≤ now.instant.toNanos ∧
      now.instant.toNanos < (second + 1 + config.maxSecondsNotBefore.toNat) * 1000000000 := by
  obtain ⟨t,hparse,rfl,hwindow⟩ := h.window_of_login_ok hnow hconfig hsignature
  subst hmessage
  have hheads : Heads t.seconds (SignatureData.message ⟨t,request.bundle,request.role⟩) :=
    heads_message _
  obtain ⟨hage,hskew⟩ := SigningWindow.span_of_check hutc (inRange_of_parse hparse) hwindow
  have hmaxAge : config.signingWindow.maxAge.toNanos =
      config.maxSecondsNotBefore.toNat * 1000000000 := Nat.add_zero _
  have hmaxSkew : config.signingWindow.maxSkew.toNanos =
      config.maxSecondsNotAfter.toNat * 1000000000 := Nat.add_zero _
  have hfloor : t.seconds * 1000000000 ≤ t.toNanos ∧
      t.toNanos < (t.seconds + 1) * 1000000000 := by
    have hlt := t.nanos.isLt
    unfold Instant.toNanos
    omega
  refine ⟨t.seconds,t,fun n => ⟨hheads.unique,fun hn => hn ▸ hheads⟩,hparse,hfloor.1,hfloor.2,?_,?_⟩
  · omega
  · omega

/-- The sample request with a signing time in the middle of its second. -/
def midSecondRequest : LoginRequest :=
  { sampleRequest with signingTime := "1970-01-01T00:00:00.5Z" }

theorem replay_span_midSecond :
    ∃ second t, (∀ n, Heads n "1970-01-01T00:00:00Zpemweb" ↔ n = second) ∧
      parse? midSecondRequest.signingTime = some t ∧
      second * 1000000000 ≤ t.toNanos ∧ t.toNanos < (second + 1) * 1000000000 ∧
      (second - 60) * 1000000000 ≤ 60000000000 ∧
      60000000000 < (second + 1 + 300) * 1000000000 := by
  have hlogin : (Schedule.alone Script.world (login midSecondRequest (some ⟨"10.0.0.1"⟩)).run
      sampleState).1 = some (.ok sampleCredential) := by rfl
  have hmessage : SignatureData.message ⟨⟨0,500000000⟩,"pem","web"⟩ =
      "1970-01-01T00:00:00Zpemweb" := by rfl
  exact replay_span _ (course_of_alone hlogin) (.head _) ⟨rfl,by decide⟩
    (.tail _ (.tail _ (.tail _ (.tail _ (.head _)))))
    (.tail _ (.tail _ (.tail _ (.tail _ (.tail _ (.tail _ (.head _))))))) hmessage

end WorkloadLogin.Service
