import WorkloadLogin.Constraint
import WorkloadLogin.Proofs.Address.Membership
import WorkloadLogin.Proofs.Address.Octets
import Mathlib.Data.List.Forall2

/-! # Callers and their networks

A remote text names the address that stands before its first solidus, without the blanks around it.
A list of networks admits exactly the callers whose address, unwrapped where it wraps an IPv4 one,
starts with the bits that one of its networks sets. A network of wrapped IPv4 addresses is left as
it is, so it admits nobody: the addresses that it covers are unwrapped before they are compared.
-/
namespace WorkloadLogin.Constraint
open Text
variable {remote : String} {cs front : List Char} {ip : Ip} {networks networks' : List Network}

/-! ## The address that a text names -/

/-- The text up to the first solidus, or all of it where there is none. -/
structure Front (cs front : List Char) : Prop where
  behind : ∃ behind, cs = front ++ behind ∧ ∀ c ∈ behind.head?, c = '/'
  free : '/' ∉ front

theorem takeWhile_eq_iff_front : cs.takeWhile (· != '/') = front ↔ Front cs front := by
  constructor
  · rintro rfl
    refine ⟨⟨cs.dropWhile (· != '/'),List.takeWhile_append_dropWhile.symm,?_⟩,?_⟩
    · intro c hc
      simpa using of_mem_head?_dropWhile hc
    · intro hslash
      simpa using of_mem_takeWhile hslash
  · rintro ⟨⟨behind,rfl,hbehind⟩,hfree⟩
    apply takeWhile_run
    · intro c hc
      have hne : c ≠ '/' := fun h => hfree (h ▸ hc)
      simpa using hne
    · intro c hc
      simpa using hbehind c hc

/-- The text writes the address before its first solidus, with nothing but blanks around it. -/
def Names (remote : String) (ip : Ip) : Prop :=
  ∃ front text, Front remote.toList front ∧ Trims isBlank front text ∧ Ip.Written text ip

theorem remoteIp?_eq_some_iff : remoteIp? remote = some ip ↔ Names remote ip := by
  unfold remoteIp? trimBlank
  rw [Ip.parse?_eq_some_iff]
  constructor
  · intro h
    exact ⟨_,_,takeWhile_eq_iff_front.mp rfl,trims_trimWhere _ _,h⟩
  · rintro ⟨front,text,hfront,htext,h⟩
    rw [takeWhile_eq_iff_front.mpr hfront, htext.trimWhere_eq]
    exact h

theorem Names.unique {ip' : Ip} (h : Names remote ip) (h' : Names remote ip') : ip = ip' := by
  have hread := remoteIp?_eq_some_iff.mpr h
  rw [remoteIp?_eq_some_iff.mpr h'] at hread
  exact (Option.some.inj hread).symm

theorem front_self (h : '/' ∉ cs) : Front cs cs := ⟨⟨[],by simp,nofun⟩,h⟩

/-- What follows a solidus does not count. -/
theorem remoteIp?_suffix {front : String} (hfree : '/' ∉ front.toList) (behind : String) :
    remoteIp? (front ++ "/" ++ behind) = remoteIp? front := by
  have hwhole : Front front.toList front.toList := front_self hfree
  have hcut : Front (front ++ "/" ++ behind).toList front.toList := by
    refine ⟨⟨'/' :: behind.toList,by simp,?_⟩,hfree⟩
    intro c hc
    cases hc
    rfl
  unfold remoteIp?
  rw [takeWhile_eq_iff_front.mpr hwhole, takeWhile_eq_iff_front.mpr hcut]

/-- What is printed of an address names it, with a suffix, too. -/
theorem names_render (ip : Ip) :
    Names ip.render ip ∧ ∀ suffix, Names (ip.render ++ "/" ++ suffix) ip := by
  have hwritten := Ip.written_render ip
  obtain ⟨hblank,hslash⟩ := hwritten.solid
  have hnames : Names ip.render ip := ⟨_,_,front_self hslash,trims_self hblank,hwritten⟩
  refine ⟨hnames,fun suffix => ?_⟩
  rw [← remoteIp?_eq_some_iff, remoteIp?_suffix hslash]
  exact remoteIp?_eq_some_iff.mpr hnames

/-! ## Admission -/

theorem withinAny_iff : withinAny remote networks = true ↔ networks = [] ∨
    ∃ ip, Names remote ip ∧ ∃ net ∈ networks, net.Covers ip.canonical := by
  unfold withinAny
  rw [Bool.or_eq_true, List.isEmpty_iff]
  refine or_congr Iff.rfl ?_
  simp only [← remoteIp?_eq_some_iff, ← Network.contains_iff]
  cases remoteIp? remote with
  | none => simp
  | some a => simp

/-- Whoever names the address is admitted by a network that covers it, and by no other. -/
theorem withinAny_of_names (h : Names remote ip) : withinAny remote networks = true ↔
    networks = [] ∨ ∃ net ∈ networks, net.Covers ip.canonical := by
  rw [withinAny_iff]
  refine or_congr Iff.rfl ⟨?_,fun hnet => ⟨ip,h,hnet⟩⟩
  rintro ⟨ip',h',hnet⟩
  rwa [h.unique h']

/-- Nobody is excluded when each network finds one in the other list that sets the same bits. -/
theorem withinAny_mono (hempty : networks = [] → networks' = [])
    (h : ∀ net ∈ networks, ∃ net' ∈ networks', net.Agrees net')
    (hin : withinAny remote networks = true) : withinAny remote networks' = true := by
  rw [withinAny_iff] at hin ⊢
  rcases hin with hnil | ⟨ip,hip,net,hnet,hcovers⟩
  · exact .inl (hempty hnil)
  · obtain ⟨net',hnet',hagrees⟩ := h net hnet
    exact .inr ⟨ip,hip,net',hnet',hcovers.of_agrees hagrees⟩

theorem withinAny_of_perm (h : networks.Perm networks')
    (hin : withinAny remote networks = true) : withinAny remote networks' = true := by
  refine withinAny_mono (fun hnil => ?_) (fun net hnet => ?_) hin
  · rw [hnil] at h
    exact h.nil_eq.symm
  · exact ⟨net,h.mem_iff.mp hnet,.refl net⟩

theorem exists_agrees (h : List.Forall₂ Network.Agrees networks networks') :
    ∀ net ∈ networks, ∃ net' ∈ networks', net.Agrees net' := by
  induction h with
  | nil => nofun
  | cons hhead htail ih =>
    intro net hnet
    rcases List.mem_cons.mp hnet with rfl | hnet
    · exact ⟨_,List.mem_cons_self,hhead⟩
    · obtain ⟨net',hnet',hagrees⟩ := ih net hnet
      exact ⟨net',List.mem_cons_of_mem _ hnet',hagrees⟩

theorem withinAny_of_forall₂_agrees (h : List.Forall₂ Network.Agrees networks networks')
    (hin : withinAny remote networks = true) : withinAny remote networks' = true := by
  refine withinAny_mono (fun hnil => ?_) (exists_agrees h) hin
  rw [hnil] at h
  exact List.forall₂_nil_left_iff.mp h

/-- A caller is admitted when there are no networks, or when the text before the first solidus
writes an address whose canonical form starts with the bits that some network of its family sets.
So the order of the networks does not matter, their host bits do not, nor does what follows the
solidus, and more networks exclude nobody where there are some already. -/
theorem networks_admit_exactly (remote : String) (networks : List Network) :
    (withinAny remote networks = true ↔ networks = [] ∨
      ∃ ip, Names remote ip ∧ ∃ net ∈ networks, net.Covers ip.canonical) ∧
    (∀ networks', networks.Perm networks' →
      withinAny remote networks' = withinAny remote networks) ∧
    (∀ networks', List.Forall₂ Network.Agrees networks networks' →
      withinAny remote networks' = withinAny remote networks) ∧
    (∀ front behind, '/' ∉ front.toList → remote = front ++ "/" ++ behind →
      withinAny remote networks = withinAny front networks) ∧
    ∀ networks', networks ≠ [] → networks ⊆ networks' →
      withinAny remote networks = true → withinAny remote networks' = true := by
  refine ⟨withinAny_iff,?_,?_,?_,?_⟩
  · intro networks' h
    rw [Bool.eq_iff_iff]
    exact ⟨withinAny_of_perm h.symm,withinAny_of_perm h⟩
  · intro networks' h
    have hback : List.Forall₂ Network.Agrees networks' networks :=
      h.flip.imp fun _ _ hagrees => hagrees.symm
    rw [Bool.eq_iff_iff]
    exact ⟨withinAny_of_forall₂_agrees hback,withinAny_of_forall₂_agrees h⟩
  · rintro front behind hfree rfl
    unfold withinAny
    rw [remoteIp?_suffix hfree]
  · intro networks' hne hsub hin
    refine withinAny_mono (fun hnil => absurd hnil hne) (fun net hnet => ?_) hin
    exact ⟨net,hsub hnet,.refl net⟩

theorem networks_admit_exactly_dualStack :
    Names " ::ffff:10.1.2.3 /64" (.v6 (.ofMapped (.ofOctets 10 1 2 3))) ∧
      withinAny " ::ffff:10.1.2.3 /64"
        [.v4 (.ofOctets 192 168 1 7) 24,.v4 (.ofOctets 10 200 0 9) 8] = true ∧
      withinAny " ::ffff:10.1.2.3 /64"
        [.v4 (.ofOctets 10 200 0 9) 8,.v4 (.ofOctets 192 168 1 7) 24] = true ∧
      withinAny " ::ffff:10.1.2.3 /64"
        [.v4 (.ofOctets 192 168 1 0) 24,.v4 (.ofOctets 10 0 0 0) 8] = true ∧
      withinAny " ::ffff:10.1.2.3 "
        [.v4 (.ofOctets 192 168 1 7) 24,.v4 (.ofOctets 10 200 0 9) 8] = true ∧
      withinAny " ::ffff:10.1.2.3 /64"
        [.v6 0 0,.v4 (.ofOctets 192 168 1 7) 24,.v4 (.ofOctets 10 200 0 9) 8] = true := by
  have hnames : Names " ::ffff:10.1.2.3 /64" (.v6 (.ofMapped (.ofOctets 10 1 2 3))) :=
    remoteIp?_eq_some_iff.mp (by decide +kernel)
  obtain ⟨hexact,horder,hhost,hbehind,hmore⟩ := networks_admit_exactly " ::ffff:10.1.2.3 /64"
    [.v4 (.ofOctets 192 168 1 7) 24,.v4 (.ofOctets 10 200 0 9) 8]
  have hin := hexact.mpr (.inr ⟨_,hnames,.v4 (.ofOctets 10 200 0 9) 8,by simp,by decide +kernel⟩)
  have hsuffix := hbehind " ::ffff:10.1.2.3 " "64" (by decide +kernel) (by decide +kernel)
  refine ⟨hnames,hin,(horder _ (.swap _ _ [])).trans hin,?_,hsuffix.symm.trans hin,?_⟩
  · refine (hhost _ (.cons (.v4 ?_) (.cons (.v4 ?_) .nil))).trans hin
    · decide +kernel
    · decide +kernel
  · exact hmore _ nofun (List.subset_cons_self _ _) hin

/-! ## Both spellings of a caller -/

/-- A caller with an IPv4 address is admitted by IPv4 networks alone, however the address is
spelled. -/
theorem withinAny_of_canonical {a : Ipv4} (h : Names remote ip) (ha : ip.canonical = .v4 a) :
    withinAny remote networks = true ↔
      networks = [] ∨ ∃ n p, Network.v4 n p ∈ networks ∧ SameLead p.val n a := by
  rw [withinAny_of_names h, ha]
  refine or_congr Iff.rfl ⟨?_,?_⟩
  · rintro ⟨net,hnet,hcovers⟩
    cases hcovers with
    | v4 hlead => exact ⟨_,_,hnet,hlead⟩
  · rintro ⟨n,p,hnet,hlead⟩
    exact ⟨_,hnet,.v4 hlead⟩

/-- A wrapped network admits no caller with an IPv4 address. -/
theorem withinAny_mapped {a : Ipv4} (h : Names remote ip) (ha : ip.canonical = .v4 a) (n : Ipv4)
    (p : Fin 33) : withinAny remote [.mapped n p] = false := by
  rw [Bool.eq_false_iff, Ne, withinAny_of_canonical h ha]
  simp [Network.mapped]

/-- An IPv6 network admits the addresses that it covers, except for those that wrap an IPv4 one. -/
theorem withinAny_v6_iff {b n : Ipv6} {p : Fin 129} (h : Names remote (.v6 b)) :
    withinAny remote [.v6 n p] = true ↔ SameLead p.val n b ∧ ∀ c, b ≠ .ofMapped c := by
  rw [withinAny_of_names h]
  simp only [List.cons_ne_nil, false_or, List.mem_singleton, exists_eq_left]
  constructor
  · intro hcovers
    generalize hc : (Ip.v6 b).canonical = c at hcovers
    cases hcovers with
    | v6 hlead =>
      obtain ⟨heq,hplain⟩ := Ip.canonical_eq_v6_iff.mp hc
      cases heq
      exact ⟨hlead,hplain⟩
  · rintro ⟨hlead,hplain⟩
    rw [Ip.canonical_v6 hplain]
    exact .v6 hlead

/-- The two spellings of an IPv4 address are admitted alike by every list of networks, namely by
those with an IPv4 network whose bits the address starts with. A network of wrapped addresses
admits neither, though it covers as many, so both spellings of a network decide alike for both of
an address exactly when the address is in neither; and an IPv6 network admits the addresses that it
covers except for those that wrap an IPv4 address. -/
theorem admission_by_spelling {plain wrapped : String} {a : Ipv4} (hplain : Names plain (.v4 a))
    (hwrapped : Names wrapped (.v6 (.ofMapped a))) :
    (∀ networks, withinAny wrapped networks = withinAny plain networks ∧
      (withinAny plain networks = true ↔
        networks = [] ∨ ∃ n p, Network.v4 n p ∈ networks ∧ SameLead p.val n a)) ∧
    (∀ n p, ((Network.mapped n p).Covers (.v6 (.ofMapped a)) ↔ SameLead p.val n a) ∧
      withinAny plain [.mapped n p] = false ∧ withinAny wrapped [.mapped n p] = false ∧
      (withinAny wrapped [.v4 n p] = withinAny plain [.v4 n p] ∧
        withinAny plain [.mapped n p] = withinAny plain [.v4 n p] ∧
        withinAny wrapped [.mapped n p] = withinAny plain [.v4 n p] ↔ ¬ SameLead p.val n a)) ∧
    ∀ remote b, Names remote (.v6 b) → ∀ n p,
      (withinAny remote [.v6 n p] = true ↔ SameLead p.val n b ∧ ∀ c, b ≠ .ofMapped c) := by
  have hcanonical := Ip.canonical_ofMapped a
  have halike : ∀ networks, withinAny wrapped networks = withinAny plain networks := by
    intro networks
    rw [Bool.eq_iff_iff, withinAny_of_canonical hplain rfl]
    exact withinAny_of_canonical hwrapped hcanonical
  refine ⟨fun networks => ⟨halike networks,withinAny_of_canonical hplain rfl⟩,fun n p => ?_,
    fun remote b h n p => withinAny_v6_iff h⟩
  have hnobody := withinAny_mapped hplain rfl n p
  have hnobody' := withinAny_mapped hwrapped hcanonical n p
  have hmember : withinAny plain [.v4 n p] = true ↔ SameLead p.val n a := by
    rw [withinAny_of_canonical hplain rfl]
    simp
  refine ⟨?_,hnobody,hnobody',?_⟩
  · rw [Network.covers_mapped_iff, Network.covers_v4_iff]
  · rw [halike, hnobody, hnobody', ← hmember]
    cases withinAny plain [.v4 n p] <;> simp

/-- A caller and a network both in wrapped spelling: the network covers the address, and does not
admit it. -/
theorem wrapped_network_refuses_member :
    Network.parse? "::ffff:10.0.0.0/104" = some (.mapped (.ofOctets 10 0 0 0) 8) ∧
      Names "::ffff:10.0.0.1" (.v6 (.ofMapped (.ofOctets 10 0 0 1))) ∧
      (Network.mapped (.ofOctets 10 0 0 0) 8).Covers (.v6 (.ofMapped (.ofOctets 10 0 0 1))) ∧
      withinAny "::ffff:10.0.0.1" [.mapped (.ofOctets 10 0 0 0) 8] = false ∧
      withinAny "::ffff:10.0.0.1" [.v4 (.ofOctets 10 0 0 0) 8] = true := by
  have hnames : Names "::ffff:10.0.0.1" (.v6 (.ofMapped (.ofOctets 10 0 0 1))) :=
    remoteIp?_eq_some_iff.mp (by decide +kernel)
  exact ⟨by decide +kernel,hnames,by decide +kernel,by decide +kernel,by decide +kernel⟩

theorem admission_by_spelling_sample :
    withinAny "::ffff:10.0.0.1" [.v6 0 0,.v4 (.ofOctets 10 0 0 0) 8] = true ∧
      withinAny "10.0.0.1" [.v6 0 0,.v4 (.ofOctets 10 0 0 0) 8] = true ∧
      withinAny "::ffff:10.0.0.1" [.mapped (.ofOctets 10 0 0 0) 8] = false ∧
      withinAny "fd00::1" [.v6 (.ofGroups [0xfd00,0,0,0,0,0,0,9]) 64] = true := by
  have hplain : Names "10.0.0.1" (.v4 (.ofOctets 10 0 0 1)) :=
    remoteIp?_eq_some_iff.mp (by decide +kernel)
  have hwrapped : Names "::ffff:10.0.0.1" (.v6 (.ofMapped (.ofOctets 10 0 0 1))) :=
    remoteIp?_eq_some_iff.mp (by decide +kernel)
  have hlocal : Names "fd00::1" (.v6 (.ofGroups [0xfd00,0,0,0,0,0,0,1])) :=
    remoteIp?_eq_some_iff.mp (by decide +kernel)
  obtain ⟨halike,hmapped,hwide⟩ := admission_by_spelling hplain hwrapped
  obtain ⟨hsame,hadmitted⟩ := halike [.v6 0 0,.v4 (.ofOctets 10 0 0 0) 8]
  have hin := hadmitted.mpr (.inr ⟨_,_,List.mem_cons_of_mem _ List.mem_cons_self,by decide +kernel⟩)
  refine ⟨hsame.trans hin,hin,(hmapped _ 8).2.2.1,?_⟩
  have hnone : Ipv6.mapped? (.ofGroups [0xfd00,0,0,0,0,0,0,1]) = none := by decide +kernel
  refine (hwide _ _ hlocal _ 64).mpr ⟨by decide +kernel,?_⟩
  intro c hc
  cases hnone.symm.trans (Ipv6.mapped?_eq_some_iff.mpr hc)

end WorkloadLogin.Constraint
