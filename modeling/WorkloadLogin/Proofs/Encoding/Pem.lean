import WorkloadLogin.Encoding.Pem
import WorkloadLogin.Proofs.Encoding.Base64

/-! # PEM is read back

A marker is found behind any text without its first character. So blocks that are written between
their boundary lines are read back in order, whatever plain text stands between them and however
their data is broken into lines, as long as no line of it is empty.
-/
namespace WorkloadLogin.Pem
open Text
variable {marker pre cs : List Char} {c : Char}

/-! ## Markers -/

theorem readUntil_append (hne : marker ≠ []) (hpre : ∀ c ∈ pre, marker.head? ≠ some c)
    (read cs : List Char) :
    readUntil marker 0 read (pre ++ cs) = readUntil marker 0 (pre.reverse ++ read) cs := by
  induction pre generalizing read with
  | nil => rfl
  | cons c pre ih =>
    have hc : ¬ marker[0]? = some c := by
      rw [← List.head?_eq_getElem?]
      exact hpre c (List.mem_cons_self ..)
    have hlen : ¬ 0 = marker.length := fun h => hne (List.length_eq_zero_iff.mp h.symm)
    rw [List.cons_append, readUntil]
    simp only [hc, if_false, hlen]
    rw [ih fun d hd => hpre d (List.mem_cons_of_mem _ hd)]
    simp

theorem readUntil_drop {k : Nat} (hk : k < marker.length) (read cs : List Char) :
    readUntil marker k read (marker.drop k ++ cs) = some ((read.drop k).reverse, cs) := by
  induction hn : marker.length - k generalizing k read with
  | zero => omega
  | succ n ih =>
    have hget : marker[k]? = some marker[k] := List.getElem?_eq_getElem hk
    rw [List.drop_eq_getElem_cons hk, List.cons_append, readUntil]
    simp only [hget, if_true]
    by_cases hlast : k + 1 = marker.length
    · have hdrop : marker.drop (k + 1) = [] := List.drop_of_length_le (by omega)
      rw [if_pos hlast, hdrop, Nat.add_sub_cancel, List.nil_append]
    · rw [if_neg hlast, ih (by omega) _ (by omega), List.drop_succ_cons]

/-- A marker is found behind a text without its first character. -/
theorem upTo_append {m : String} (hne : m.toList ≠ [])
    (hpre : ∀ c ∈ pre, m.toList.head? ≠ some c) (cs : List Char) :
    upTo m (pre ++ (m.toList ++ cs)) = some (pre, cs) := by
  have hpos : 0 < m.toList.length := List.length_pos_iff.mpr hne
  have hfound := readUntil_drop hpos (pre.reverse ++ []) cs
  rw [List.drop_zero] at hfound
  rw [upTo, readUntil_append hne hpre, hfound]
  simp

theorem readUntil_eq_none {k : Nat} (hk : k < marker.length)
    (h : ¬ marker <:+: marker.take k ++ cs) (read : List Char) :
    readUntil marker k read cs = none := by
  induction cs generalizing k read with
  | nil => rfl
  | cons c cs ih =>
    rw [readUntil]
    by_cases hc : marker[k]? = some c
    · have hget : marker[k] = c := by simpa [List.getElem?_eq_getElem hk] using hc
      have htake : marker.take (k + 1) ++ cs = marker.take k ++ c :: cs := by
        rw [List.take_succ_eq_append_getElem hk, hget, List.append_assoc, List.singleton_append]
      simp only [hc, if_true]
      by_cases hlast : k + 1 = marker.length
      · rw [← htake, hlast, List.take_length] at h
        exact absurd (List.prefix_append marker cs).isInfix h
      · rw [if_neg hlast]
        exact ih (by omega) (htake ▸ h) _
    · have hlen : ¬ 0 = marker.length := by omega
      simp only [hc, if_false, hlen]
      refine ih (by omega) (fun hin => h ?_) _
      rw [List.take_zero, List.nil_append] at hin
      exact hin.trans ((List.suffix_cons c cs).isInfix.trans (List.suffix_append _ _).isInfix)

theorem readUntil_rest (marker : List Char) (k : Nat) (read read' cs : List Char) :
    (readUntil marker k read cs).map Prod.snd = (readUntil marker k read' cs).map Prod.snd := by
  induction cs generalizing k read read' with
  | nil => rfl
  | cons c cs ih =>
    simp only [readUntil]
    generalize (if marker[k]? = some c then k + 1 else 0) = matched
    split
    · rfl
    · exact ih ..

/-- What is found does not depend on a text in front without the marker's first character. -/
theorem upTo_rest {m : String} (hne : m.toList ≠ []) (hpre : ∀ c ∈ pre, m.toList.head? ≠ some c)
    (cs : List Char) : (upTo m (pre ++ cs)).map Prod.snd = (upTo m cs).map Prod.snd := by
  rw [upTo, readUntil_append hne hpre, readUntil_rest _ _ _ [], ← upTo]

/-! ## Blocks among other text -/

theorem not_head_of_plain {m : String} (hm : m.toList.head? = some '-') (hpre : '-' ∉ pre) :
    ∀ c ∈ pre, m.toList.head? ≠ some c := by
  rintro c hc h
  cases hm.symm.trans h
  exact hpre hc

/-- A text without dashes in front of the next block does not count. -/
theorem nextFrame_append (hpre : '-' ∉ pre) (cs : List Char) :
    nextFrame (pre ++ cs) = nextFrame cs := by
  have hrest := upTo_rest (m := "-----BEGIN ") (by decide) (not_head_of_plain rfl hpre) cs
  unfold nextFrame
  cases hp : upTo "-----BEGIN " (pre ++ cs) with
  | none =>
    cases hc : upTo "-----BEGIN " cs with
    | none => rfl
    | some r => simp [hp, hc] at hrest
  | some r =>
    cases hc : upTo "-----BEGIN " cs with
    | none => simp [hp, hc] at hrest
    | some r' =>
      simp only [hp, hc, Option.map_some, Option.some.injEq] at hrest
      simp only [Option.bind_eq_bind, Option.bind_some, hrest]

theorem frames_append (hpre : '-' ∉ pre) (most : Nat) (cs : List Char) :
    frames most (pre ++ cs) = frames most cs := by
  cases most with
  | zero => rfl
  | succ most => simp only [frames, nextFrame_append hpre]

theorem frames_dropWhile (most : Nat) (cs : List Char) :
    frames most (cs.dropWhile isSpace) = frames most cs := by
  have hplain : '-' ∉ cs.takeWhile isSpace := by
    intro h
    cases List.all_eq_true.mp List.all_takeWhile '-' h
  rw [← frames_append hplain most (cs.dropWhile isSpace), List.takeWhile_append_dropWhile]

/-- A block between its boundary lines. -/
def boundText (tag body : List Char) : List Char :=
  "-----BEGIN ".toList ++ (tag ++ ("-----".toList ++ (body ++ ("-----END ".toList ++
    (tag ++ "-----".toList)))))

theorem dropWhile_isSpace_append (body : List Char) {cs : List Char} (hcs : cs.head? = some '-') :
    (body ++ cs).dropWhile isSpace = body.dropWhile isSpace ++ cs := by
  rw [List.dropWhile_append]
  split
  · rename_i hempty
    rw [List.isEmpty_iff.mp hempty]
    cases cs with
    | nil => cases hcs
    | cons d cs =>
      cases hcs
      rfl
  · rfl

theorem nextFrame_boundText {tag body : List Char} (htag : '-' ∉ tag) (hbody : '-' ∉ body)
    (cs : List Char) :
    nextFrame (boundText tag body ++ cs) =
      some (⟨tag,body.dropWhile isSpace,tag⟩,cs.dropWhile isSpace) := by
  have hinner : '-' ∉ body.dropWhile isSpace := fun h =>
    hbody ((List.dropWhile_suffix isSpace).subset h)
  have hopen (rest : List Char) :
      upTo "-----BEGIN " ([] ++ ("-----BEGIN ".toList ++ rest)) = some ([],rest) :=
    upTo_append (by decide) (by simp) rest
  have htagged (rest : List Char) :
      upTo "-----" (tag ++ ("-----".toList ++ rest)) = some (tag,rest) :=
    upTo_append (by decide) (not_head_of_plain rfl htag) rest
  have hclosed (rest : List Char) :
      upTo "-----END " ((body ++ ("-----END ".toList ++ rest)).dropWhile isSpace) =
        some (body.dropWhile isSpace,rest) := by
    have hdash : ("-----END ".toList ++ rest).head? = some '-' := by simp
    rw [dropWhile_isSpace_append body hdash]
    exact upTo_append (by decide) (not_head_of_plain rfl hinner) rest
  simp only [List.nil_append] at hopen
  unfold boundText nextFrame
  simp only [List.append_assoc, Option.bind_eq_bind, hopen, htagged, hclosed, Option.bind_some,
    Option.pure_def]

/-- What a PEM text is made of: blocks, each with the body that it is written with, and other
text. -/
inductive Piece where
  | text (cs : List Char)
  | block (b : Block) (body : List Char)

namespace Piece

def chars : Piece → List Char
  | text cs => cs
  | block b body => boundText b.tag.toList body

def block? : Piece → Option Block
  | text _ => none
  | block b _ => some b

/-- The text that these pieces make up. -/
def write (pieces : List Piece) : String := String.ofList (pieces.flatMap chars)

/-- Text has no dashes, nor have tags, which are not empty either. A body is the encoding of its
block with blanks anywhere, but no line of it is empty, since that would end headers. -/
inductive Proper : Piece → Prop
  | text {cs : List Char} (h : '-' ∉ cs) : Proper (text cs)
  | block {b : Block} {body : List Char} (hne : b.tag.toList ≠ []) (htag : '-' ∉ b.tag.toList)
      (hdata : body.filter (fun c => !isBlank c) = Base64.encode .standard b.contents)
      (hlines : ¬ ['\n','\n'] <:+: body.dropWhile isSpace ∧
        ¬ ['\r','\n','\r','\n'] <:+: body.dropWhile isSpace) : Proper (block b body)

/-- The block as it stands in the text. -/
def frame? : Piece → Option Frame
  | text _ => none
  | block b body => some ⟨b.tag.toList,body.dropWhile isSpace,b.tag.toList⟩

end Piece

theorem dash_notMem_encode (bs : Bytes) : '-' ∉ Base64.encode .standard bs := by
  intro hmem
  have hsymbol : ∀ n < 64, '-' ≠ Base64.Alphabet.standard.symbol n := by decide
  rcases Base64.mem_encode .standard bs '-' hmem with h | ⟨n,hn,h⟩
  · cases h
  · exact hsymbol n hn h

theorem dash_notMem_body {b : Block} {body : List Char}
    (hdata : body.filter (fun c => !isBlank c) = Base64.encode .standard b.contents) :
    '-' ∉ body := by
  intro hmem
  have hkept : '-' ∈ body.filter fun c => !isBlank c := List.mem_filter.mpr ⟨hmem,rfl⟩
  rw [hdata] at hkept
  exact dash_notMem_encode b.contents hkept

theorem filterMap_block?_block (b : Block) (body : List Char) (pieces : List Piece) :
    (Piece.block b body :: pieces).filterMap Piece.block? = b :: pieces.filterMap Piece.block? :=
  List.filterMap_cons_some rfl

theorem filterMap_frame?_block (b : Block) (body : List Char) (pieces : List Piece) :
    (Piece.block b body :: pieces).filterMap Piece.frame? =
      ⟨b.tag.toList,body.dropWhile isSpace,b.tag.toList⟩ :: pieces.filterMap Piece.frame? :=
  List.filterMap_cons_some rfl

theorem frames_nil (most : Nat) : frames most [] = [] := by
  cases most <;> rfl

theorem frames_pieces {pieces : List Piece} (h : ∀ p ∈ pieces, p.Proper) {most : Nat}
    (hmost : (pieces.filterMap Piece.block?).length ≤ most) :
    frames most (pieces.flatMap Piece.chars) = pieces.filterMap Piece.frame? := by
  induction pieces generalizing most with
  | nil => exact frames_nil most
  | cons p pieces ih =>
    obtain ⟨hp,hrest⟩ := List.forall_mem_cons.mp h
    rw [List.flatMap_cons]
    cases hp with
    | text hplain => exact (frames_append hplain most _).trans (ih hrest hmost)
    | @block b body hne htag hdata hlines =>
      have hbody := dash_notMem_body hdata
      rw [filterMap_block?_block, List.length_cons] at hmost
      obtain ⟨fewer,rfl⟩ := Nat.exists_eq_succ_of_ne_zero (Nat.ne_zero_of_lt hmost)
      rw [Piece.chars, frames, nextFrame_boundText htag hbody, filterMap_frame?_block]
      simp only [frames_dropWhile, ih hrest (Nat.le_of_succ_le_succ hmost)]

theorem splitBody_eq {body : List Char} (h : ¬ ['\n','\n'] <:+: body)
    (h' : ¬ ['\r','\n','\r','\n'] <:+: body) : splitBody body = ([],body) := by
  have hline : upTo "\n\n" body = none := readUntil_eq_none (k := 0) (by decide) h []
  have hline' : upTo "\r\n\r\n" body = none := readUntil_eq_none (k := 0) (by decide) h' []
  rw [splitBody, hline, hline', Option.getD_none]

theorem filter_dropWhile_isSpace (body : List Char) :
    (body.dropWhile isSpace).filter (fun c => !isBlank c) = body.filter fun c => !isBlank c := by
  have hspaces : (body.takeWhile isSpace).filter (fun c => !isBlank c) = [] := by
    rw [List.filter_eq_nil_iff]
    intro c hc
    have hspace := List.all_eq_true.mp List.all_takeWhile c hc
    simp only [isSpace, Bool.or_eq_true, beq_iff_eq] at hspace
    rcases hspace with ((rfl | rfl) | rfl) | rfl <;> decide
  have hsplit := congrArg (List.filter fun c => !isBlank c)
    (List.takeWhile_append_dropWhile (p := isSpace) (l := body))
  rwa [List.filter_append, hspaces, List.nil_append] at hsplit

theorem decodeFrame_frame {b : Block} {body : List Char} (hne : b.tag.toList ≠ [])
    (hdata : body.filter (fun c => !isBlank c) = Base64.encode .standard b.contents)
    (hlines : ¬ ['\n','\n'] <:+: body.dropWhile isSpace ∧
      ¬ ['\r','\n','\r','\n'] <:+: body.dropWhile isSpace) :
    decodeFrame ⟨b.tag.toList,body.dropWhile isSpace,b.tag.toList⟩ = .ok b := by
  have hopen : b.tag.toList.isEmpty = false := List.isEmpty_eq_false_iff.mpr hne
  simp only [decodeFrame, hopen, Bool.false_eq_true, if_false, ne_eq, not_true_eq_false,
    splitBody_eq hlines.1 hlines.2, filter_dropWhile_isSpace, hdata, Base64.decode_encode]
  rw [show lines [] = [] from rfl, String.ofList_toList]
  rfl

theorem mapM_decodeFrame {pieces : List Piece} (h : ∀ p ∈ pieces, p.Proper) :
    (pieces.filterMap Piece.frame?).mapM decodeFrame = .ok (pieces.filterMap Piece.block?) := by
  induction pieces with
  | nil => rfl
  | cons p pieces ih =>
    obtain ⟨hp,hrest⟩ := List.forall_mem_cons.mp h
    cases hp with
    | text => exact ih hrest
    | block hne htag hdata hlines =>
      rw [filterMap_frame?_block, filterMap_block?_block, List.mapM_cons,
        decodeFrame_frame hne hdata hlines, ih hrest]
      rfl

theorem length_block?_le (pieces : List Piece) :
    (pieces.filterMap Piece.block?).length ≤ (pieces.flatMap Piece.chars).length := by
  induction pieces with
  | nil => exact Nat.le_refl 0
  | cons p pieces ih =>
    rw [List.flatMap_cons, List.length_append]
    cases p with
    | text cs => exact Nat.le_add_left_of_le ih
    | block b body =>
      have hpos : 0 < (boundText b.tag.toList body).length :=
        List.length_pos_iff.mpr (by unfold boundText; simp)
      rw [filterMap_block?_block, List.length_cons, Piece.chars]
      omega

/-- The blocks of a text are those that it was written with. -/
theorem parse_write {pieces : List Piece} (h : ∀ p ∈ pieces, p.Proper) :
    parse (Piece.write pieces) = .ok (pieces.filterMap Piece.block?) := by
  have hmost := Nat.le_succ_of_le (length_block?_le pieces)
  rw [parse, Piece.write, String.toList_ofList]
  simp only [frames_pieces h hmost, mapM_decodeFrame h]

/-! ## Blocks with their data on one line -/

theorem isBlank_eq_false_of_mem_encode (bs : Bytes) :
    ∀ c ∈ Base64.encode .standard bs, isBlank c = false := by
  have hsymbol : ∀ n < 64, isBlank (Base64.Alphabet.standard.symbol n) = false := by decide
  intro c hc
  rcases Base64.mem_encode .standard bs c hc with rfl | ⟨n,hn,rfl⟩
  · rfl
  · exact hsymbol n hn

theorem filter_encode (bs : Bytes) : (Base64.encode .standard bs).filter (fun c => !isBlank c) =
    Base64.encode .standard bs :=
  List.filter_eq_self.mpr fun c hc => by rw [isBlank_eq_false_of_mem_encode bs c hc, Bool.not_false]

theorem count_encode (bs : Bytes) : (Base64.encode .standard bs).count '\n' = 0 := by
  refine List.count_eq_zero.mpr fun hmem => ?_
  cases isBlank_eq_false_of_mem_encode bs _ hmem

theorem count_dropWhile_le (cs : List Char) :
    (cs.dropWhile isSpace).count '\n' ≤ cs.count '\n' :=
  (List.dropWhile_suffix isSpace).sublist.count_le '\n'

namespace Piece
variable {b : Block} {body : List Char}

/-- An empty line takes two breaks. -/
theorem proper_of_count (hne : b.tag.toList ≠ []) (htag : '-' ∉ b.tag.toList)
    (hdata : body.filter (fun c => !isBlank c) = Base64.encode .standard b.contents)
    (hone : (body.dropWhile isSpace).count '\n' ≤ 1) : (block b body).Proper := by
  have htwo : ∀ marker : List Char, 2 ≤ marker.count '\n' →
      ¬ marker <:+: body.dropWhile isSpace := by
    intro marker hmarker hin
    have hcount := hin.sublist.count_le '\n'
    omega
  exact .block hne htag hdata ⟨htwo _ (by decide),htwo _ (by decide)⟩

/-- The block without breaks. -/
def unbroken (b : Block) : Piece := .block b (Base64.encode .standard b.contents)

theorem proper_unbroken (hne : b.tag.toList ≠ []) (htag : '-' ∉ b.tag.toList) :
    (unbroken b).Proper := by
  refine proper_of_count hne htag (filter_encode b.contents) ?_
  have hle := count_dropWhile_le (Base64.encode .standard b.contents)
  rw [count_encode] at hle
  exact Nat.le_succ_of_le hle

/-- The block with its data on one line. -/
def oneLine (b : Block) : Piece :=
  .block b ('\n' :: (Base64.encode .standard b.contents ++ ['\n']))

theorem proper_oneLine (hne : b.tag.toList ≠ []) (htag : '-' ∉ b.tag.toList) :
    (oneLine b).Proper := by
  refine proper_of_count hne htag ?_ ?_
  · have hends : ['\n'].filter (fun c => !isBlank c) = [] := rfl
    rw [← List.singleton_append, List.filter_append, List.filter_append, hends, filter_encode,
      List.nil_append, List.append_nil]
  · -- the break in front goes with the spaces
    have hle := count_dropWhile_le (Base64.encode .standard b.contents ++ ['\n'])
    rw [List.count_append, count_encode] at hle
    exact hle

end Piece
end WorkloadLogin.Pem
