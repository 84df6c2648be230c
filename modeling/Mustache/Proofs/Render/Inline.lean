import Mustache.Proofs.Render.OutlineLike
import Mustache.Proofs.Render.Outlined
import Mustache.Proofs.Token.Seam

/-!
# An inclusion in the midst of a line

A tag in the midst of a line that includes another template may be replaced by the source of this
template, if the source begins and ends with characters of its texts that are neither blank nor
braces. Lexing the source in place comes to what lexing it apart comes to, and since nothing is
indented, what is rendered for data without callables is the same.

## Main definitions

* `Mustache.Inset` — a source that may stand in the midst of a line.
* `Mustache.WritesLe` — nodes that write the same wherever the first ones write something.

## Main results

* `Mustache.Scanned.inline` — the run with the included source in place of the tag.
* `Mustache.Reads.inline` — the nodes with those of the included source in place of the tag.
* `Mustache.render_inline` — the template with the included source in place of the tag.
-/

namespace Mustache

/-! ## Sources in the midst of a line -/

/-- A character that is neither blank nor a brace. -/
def IsInk (c : Char) : Prop := Text.isBlank c = false ∧ c ≠ '\x7b' ∧ c ≠ '\x7d'

instance (c : Char) : Decidable (IsInk c) := inferInstanceAs (Decidable (_ ∧ _ ∧ _))

/-- **A source that may stand in the midst of a line**: it begins and ends with characters of texts
that are neither blank nor braces, and at its end the usual delimiters are in effect. As it begins
under the usual delimiters, its first character is one of a text. -/
structure Inset (source : String) (tokens : List Token) : Prop where
  first : ∃ c, source.toList.head? = some c ∧ IsInk c
  last : ∃ c, source.toList.getLast? = some c ∧ IsInk c
  ends : ∃ t, tokens.getLast? = some t ∧ t.kind = .text
  delims : Delimiters.usual.after tokens = .usual

/-- Braces are all that the usual opening delimiter is made of. -/
theorem IsInk.not_mem_opening {c : Char} (h : IsInk c) :
    c ∉ Delimiters.usual.opening.toList := fun hmem => by
  obtain rfl : c = '\x7b' := by simpa [Delimiters.usual] using hmem
  exact h.2.1 rfl

/-- Delimiters are changed alike by tokens that say the same. -/
theorem Delimiters.after_of_like {V : String → String → Prop} {ts ts' : List Token}
    (h : List.Forall₂ (Token.Like V) ts ts') (d : Delimiters) : d.after ts' = d.after ts := by
  induction h generalizing d with
  | nil => rfl
  | @cons t t' ts ts' hfirst _ ih =>
    have hone : d.after [t'] = d.after [t] := by
      simp only [Delimiters.after, List.foldl_cons, List.foldl_nil, hfirst.kind]
      split
      · next hk => rw [ofWords?, ofWords?, hfirst.words hk]
      · rfl
    rw [← List.singleton_append, ← List.singleton_append (l := ts), Delimiters.after_append,
      Delimiters.after_append, hone, ih]

/-- The last token elsewhere. -/
theorem getLast?_of_elsewhere {ts ts' : List Token} (h : Elsewhere ts ts') {t : Token}
    (ht : ts.getLast? = some t) : ∃ t', ts'.getLast? = some t' ∧ t'.kind = t.kind := by
  obtain ⟨init, rfl⟩ := List.getLast?_eq_some_iff.1 ht
  obtain ⟨front, back, rfl, -, hback⟩ := forall₂_append_left h
  obtain ⟨t', others, hlike, hnil, rfl⟩ := List.forall₂_cons_left_iff.1 hback
  obtain rfl := List.forall₂_nil_left_iff.1 hnil
  exact ⟨t', by rw [List.getLast?_append]; rfl, hlike.kind⟩

/-- If a text is the last token, one is the last token behind a text. -/
theorem exists_last_text_behind {d : Delimiters} {pos : Position} {u v : List Char}
    {mid mid' : List Token} (hmid : Elsewhere mid mid')
    (h : ∃ t, (textToken d pos v ++ mid).getLast? = some t ∧ t.kind = .text)
    (hne : mid = [] → u ++ v ≠ []) (init : List Token) (spot : Position) :
    ∃ t, (init ++ (textToken d spot (u ++ v) ++ mid')).getLast? = some t ∧ t.kind = .text := by
  obtain ⟨t, ht, htext⟩ := h
  cases hlast : mid.getLast? with
  | some t₁ =>
    rw [getLast?_append_of_eq_some hlast, Option.some.injEq] at ht
    obtain ⟨t', ht', hkind⟩ := getLast?_of_elsewhere hmid hlast
    exact ⟨t', getLast?_append_of_eq_some (getLast?_append_of_eq_some ht' _) _,
      hkind.trans (ht ▸ htext)⟩
  | none =>
    obtain rfl := List.getLast?_eq_none_iff.1 hlast
    obtain rfl := List.forall₂_nil_left_iff.1 hmid
    refine ⟨⟨.text, String.ofList (u ++ v), spot.place, spot.offset,
      spot.offset + (u ++ v).length, d, ""⟩, ?_, rfl⟩
    rw [List.append_nil, textToken, if_neg (by simpa using hne rfl), List.getLast?_append]
    rfl

/-- **The run with the included source in place of the tag.** In front of it and behind it, and in
the source itself, the tokens are as before, but for where they stand; only the texts at both seams
are one.

**Proof sketch.** The run up to the tag goes on with the source as well (`Scanned.exists_front`).
There the source stands behind a text (`Scanned.behind_of_startsInk`), and what follows the tag is
put behind the source (`Scanned.append_ink`). -/
theorem Scanned.inline {a t b : List Char} {p : String} {tokens inner : List Token} {tok : Token}
    (h : Scanned .usual .start (a ++ (t ++ b)) tokens) (htok : tok ∈ tokens)
    (hkind : tok.kind = .inclusion) (hdelims : tok.delims = .usual) (hstart : tok.start = a.length)
    (hstop : tok.stop = tok.start + t.length)
    (halone : ∀ first last, ¬ StandsAlone (a ++ (t ++ b)) tokens tok first last)
    (hinner : Scanned .usual .start p.toList inner) (hinset : Inset p inner) :
    ∃ init spot u q w rest v mid init' e spot' z mid' rest',
      tokens = init ++ (textToken .usual spot u ++ tok :: (textToken e q w ++ rest)) ∧
      inner = textToken .usual .start v ++ mid ∧
      init ++ (textToken .usual spot (u ++ v) ++ mid') = init' ++ textToken e spot' z ∧
      Scanned .usual .start (a ++ (p.toList ++ b))
        (init' ++ (textToken e spot' (z ++ w) ++ rest')) ∧
      Elsewhere mid mid' ∧ Elsewhere rest rest' := by
  have husual := Delimiters.isPlain_usual
  obtain ⟨init, spot, u, q, others, rfl, hafter, hnone, hrest, hq, hany⟩ :=
    h.exists_front husual rfl (resumes_start _ _) htok (by simp [hkind]) (by simp [hkind])
      (by rw [hstart, Position.start, Nat.zero_add]) hstop halone
  rw [hdelims] at hafter hnone hrest hany ⊢
  obtain ⟨c, hc, hink⟩ := hinset.first
  obtain ⟨l, hl, hink'⟩ := hinset.last
  -- The source stands behind the text in front of the tag.
  obtain ⟨v, mid, mid', rfl, hbehind, hmid, hall⟩ :=
    hinner.behind_of_startsInk spot husual hnone hc hink.1 hink.not_mem_opening
  have hfront := hany p.toList _ ⟨c, hc, hink.1⟩ hbehind
  -- What follows the tag is put behind it.
  have hdelims' : Delimiters.usual.after (init ++ (textToken .usual spot (u ++ v) ++ mid')) =
      .usual := by
    have hend := hinset.delims
    rw [Delimiters.after_append, Delimiters.after_textToken] at hend
    rw [Delimiters.after_append, Delimiters.after_append, Delimiters.after_textToken, hafter,
      Delimiters.after_of_like hmid, hend]
  have hne : mid = [] → u ++ v ≠ [] := by
    intro hmidNil hnil
    rw [← hall hmidNil, (List.append_eq_nil_iff.1 hnil).2] at hc
    simp at hc
  have hends := exists_last_text_behind hmid hinset.ends hne init spot
  obtain ⟨init', e, spot', z, w, rest, rest', hsplit, hw, hrun, hsame⟩ :=
    hfront.append_ink husual (getLast?_append_of_eq_some hl a) hink'.1
      (by rw [hdelims']; exact hink'.not_mem_opening) hends (by rwa [hdelims']) hq
  rw [List.append_assoc, List.append_assoc] at hrun
  exact ⟨init, spot, u, q, w, rest, v, mid, init', e, spot', z, mid', rest', by rw [hw], rfl,
    hsplit, hrun, hmid, hsame⟩

/-! ## Nodes that write the same -/

/-- **Nodes that write the same wherever the first ones write something.** -/
def WritesLe (escaping : Escaping) (included : String → List Value → Outline) (depth : Nat)
    (ns ns' : List Node) : Prop :=
  ∀ frames, OutlineLe escaping (outlineNodes included depth ns frames)
    (outlineNodes included depth ns' frames)

section

variable {escaping : Escaping} {included : String → List Value → Outline} {depth : Nat}

theorem outlineNodes_append (ns ms : List Node) (frames : List Value) :
    outlineNodes included depth (ns ++ ms) frames =
      (outlineNodes included depth ns frames).append (outlineNodes included depth ms frames) := by
  induction ns with
  | nil =>
    rw [List.nil_append, outlineNodes]
    cases outlineNodes included depth ms frames <;> rfl
  | cons n ns ih =>
    rw [List.cons_append, outlineNodes, outlineNodes, ih]
    cases outlineNode included depth n frames with
    | none => rfl
    | some ps =>
      cases outlineNodes included depth ns frames with
      | none => rfl
      | some qs =>
        cases outlineNodes included depth ms frames with
        | none => rfl
        | some rs => exact congrArg some (List.append_assoc ps qs rs).symm

namespace WritesLe

theorem trans {ns ms ls : List Node} (h : WritesLe escaping included depth ns ms)
    (h' : WritesLe escaping included depth ms ls) : WritesLe escaping included depth ns ls :=
  fun frames => (h frames).trans (h' frames)

theorem cons (n : Node) {ns ns' : List Node} (h : WritesLe escaping included depth ns ns') :
    WritesLe escaping included depth (n :: ns) (n :: ns') :=
  fun frames => (OutlineLe.refl _).append (h frames)

theorem block (head : Section) {body body' : List Node}
    (h : WritesLe escaping included depth body body') (ns : List Node) :
    WritesLe escaping included depth (.block head body :: ns) (.block head body' :: ns) :=
  fun frames => (OutlineLe.block h head frames).append (.refl _)

/-- Two texts write the same as one. -/
theorem textNodes (place place' : Place) (u v : List Char) (ns : List Node) :
    WritesLe escaping included depth (textNodes place u ++ (textNodes place' v ++ ns))
      (textNodes place (u ++ v) ++ ns) := by
  intro frames
  have houtline (place : Place) (cs : List Char) : ∃ ps,
      outlineNodes included depth (Mustache.textNodes place cs) frames = some ps ∧
        ∀ τ, composed escaping ps τ = some (String.ofList cs, τ) := by
    cases cs with
    | nil => exact ⟨[], rfl, fun τ => composed_nil τ⟩
    | cons c cs =>
      refine ⟨[.text (String.ofList (c :: cs))], rfl, fun τ => ?_⟩
      exact composed_text (String.ofList (c :: cs)) τ
  obtain ⟨ps, hps, hu⟩ := houtline place u
  obtain ⟨qs, hqs, hv⟩ := houtline place' v
  obtain ⟨rs, hrs, huv⟩ := houtline place (u ++ v)
  rw [← List.append_assoc, outlineNodes_append, outlineNodes_append, hps, hqs,
    outlineNodes_append, hrs]
  refine OutlineLe.append (.some fun τ r hr => ?_) (.refl _)
  rw [composed_append, hu, Option.bind_some, hv] at hr
  rw [huv, ← hr, String.ofList_append]
  rfl

end WritesLe

/-- Two texts may be made one. -/
theorem Reads.join_texts (escaping : Escaping) (included : String → List Value → Outline)
    (depth : Nat) {init rest : List Token} {d d' : Delimiters} {pos pos' : Position}
    {u v : List Char} {ns : List Node} (hinit : ∀ t ∈ init, ¬ t.IsFiltersPragma)
    (hrest : ∀ t ∈ rest, ¬ t.IsFiltersPragma)
    (h : Reads false (init ++ (textToken d pos u ++ (textToken d' pos' v ++ rest))) ns) :
    ∃ ns', Reads false (init ++ (textToken d pos (u ++ v) ++ rest)) ns' ∧
      WritesLe escaping included depth ns ns' := by
  have htexts : ∀ t ∈ textToken d pos u ++ textToken d' pos' v, t.kind = .text := by
    rw [List.forall_mem_append]
    exact ⟨fun _ => kind_of_mem_textToken, fun _ => kind_of_mem_textToken⟩
  have hno : ∀ t ∈ textToken d pos u ++ textToken d' pos' v, ¬ t.IsFiltersPragma := by
    rw [List.forall_mem_append]
    exact ⟨not_isFiltersPragma_of_mem_textToken, not_isFiltersPragma_of_mem_textToken⟩
  rw [← List.append_assoc (textToken d pos u)] at h
  refine h.replace (fun n _ _ => .cons n) (fun head _ _ ns hR => .block head hR ns)
    (fun t ht => by simp [htexts t ht]) hno not_isFiltersPragma_of_mem_textToken
    (fun rest ns _ h => ?_) hinit hrest
  rw [List.append_assoc] at h
  obtain ⟨ms, hms, rfl⟩ := reads_textToken_append_iff.1 h
  obtain ⟨ls, hls, rfl⟩ := reads_textToken_append_iff.1 hms
  exact ⟨_, reads_textToken_append_iff.2 ⟨ls, hls, rfl⟩, .textNodes _ _ u v ls⟩

/-- **The nodes of the included source in place of the tag**, if what is included writes no more
than these nodes. -/
theorem Reads.inline {init rest inner : List Token} {tok : Token} {ns body : List Node}
    (hinit : ∀ t ∈ init, ¬ t.IsFiltersPragma) (hrest : ∀ t ∈ rest, ¬ t.IsFiltersPragma)
    (hno : ∀ t ∈ inner, ¬ t.IsFiltersPragma) (hkind : tok.kind = .inclusion)
    (hindent : tok.indent = "") (hbody : Reads false inner body)
    (hle : ∀ frames, OutlineLe escaping (included tok.value frames)
      (outlineNodes included depth body frames))
    (h : Reads false (init ++ ([tok] ++ rest)) ns) :
    ∃ ns', Reads false (init ++ (inner ++ rest)) ns' ∧
      WritesLe escaping included depth ns ns' := by
  have htok : ¬ tok.IsFiltersPragma := fun hp => by
    have := hkind.symm.trans hp.1
    simp at this
  refine h.replace (fun n _ _ => .cons n) (fun head _ _ ns hR => .block head hR ns)
    (by simp [hkind]) (by simpa using htok) hno (fun rest ns _ h => ?_) hinit hrest
  cases h with
  | @leaf _ _ n _ ns node after =>
    obtain rfl : .inclusion tok.place tok.value tok.indent = n := by
      simpa [Reading.leaf?, hkind] using node
    rw [filteredAfter_false (by simpa using htok)] at after
    refine ⟨body ++ ns, hbody.append (by rwa [filteredAfter_false hno]), fun frames => ?_⟩
    rw [outlineNodes_append]
    refine OutlineLe.append (OutlineLe.trans ?_ (hle frames)) (.refl _)
    -- Nothing is indented.
    rw [outlineNode, hindent]
    intro ps hps
    obtain ⟨inside, hinside, rfl⟩ := Option.map_eq_some_iff.1 hps
    refine ⟨inside, hinside, fun τ r hr => ?_⟩
    rw [composed_lines] at hr
    obtain ⟨r', hr', rfl⟩ := Option.map_eq_some_iff.1 hr
    rw [indentLines_empty, hr']
  | block opens => rcases opens with hk | hk <;> simp [hkind] at hk

end

/-! ## Templates -/

/-- Where there is no pragma for filters, there is none elsewhere. -/
theorem forall_not_isFiltersPragma_of_like {V : String → String → Prop} {ts ts' : List Token}
    (h : List.Forall₂ (Token.Like V) ts ts') (hno : ∀ t ∈ ts', ¬ t.IsFiltersPragma) :
    ∀ t ∈ ts, ¬ t.IsFiltersPragma := by
  induction h with
  | nil => simp
  | cons hfirst _ ih =>
    rw [List.forall_mem_cons] at hno ⊢
    exact ⟨fun hp => hno.1 (hfirst.isFiltersPragma_iff.2 hp), ih hno.2⟩

/-- What a source writes is what the nodes of its tree write. -/
theorem outlineSource_of_parse {p : String} {tree : Tree} (h : parse p .null .usual = .ok tree)
    (includes : String → Option String) (depth : Nat) (frames : List Value) :
    outlineSource includes (depth + 1) p frames =
      outlineNodes (outlineIncluded includes (outlineSource includes depth)) depth tree.body
        frames := by
  rw [outlineSource, h]

/-- What is included writes no more than its nodes do in place of the tag, where one more level is
left. -/
theorem outlineIncluded_le {escaping : Escaping} {includes : String → Option String}
    {name p : String} (hname : includes name = some p) {tree : Tree}
    (hparse : parse p .null .usual = .ok tree) (depth : Nat) (frames : List Value) :
    OutlineLe escaping (outlineIncluded includes (outlineSource includes depth) name frames)
      (outlineNodes (outlineIncluded includes (outlineSource includes depth)) depth tree.body
        frames) := by
  have hincluded : outlineIncluded includes (outlineSource includes depth) name frames =
      outlineSource includes depth p frames := by
    rw [outlineIncluded, hname]
  rw [hincluded]
  cases depth with
  | zero => exact .none _
  | succ depth =>
    rw [outlineSource_of_parse hparse]
    exact outlineNodes_mono (outlineIncluded_mono (outlineSource_mono (Nat.le_succ depth)))
      (Nat.le_succ depth) frames tree.body

section

variable {a t b p : String} {tokens inner : List Token} {tok : Token}

/-- **The tree with the included source in place of the tag.** It writes what the tree with the tag
writes, if what the tag includes writes no more than the nodes of the source. -/
theorem exists_parse_inline (htokens : tokenize (a ++ (t ++ b)) .null .usual = .ok tokens)
    (htok : tok ∈ tokens) (hkind : tok.kind = .inclusion) (hdelims : tok.delims = .usual)
    (hstart : tok.start = a.toList.length) (hstop : tok.stop = tok.start + t.toList.length)
    (halone : ∀ first last, ¬ StandsAlone (a ++ (t ++ b)).toList tokens tok first last)
    (hinner : tokenize p .null .usual = .ok inner) (hinset : Inset p inner)
    (hno : ∀ ts, tokenize (a ++ (p ++ b)) .null .usual = .ok ts → ∀ t ∈ ts, ¬ t.IsFiltersPragma)
    {tree innerTree : Tree} (htree : parse (a ++ (t ++ b)) .null .usual = .ok tree)
    (hinnerTree : parse p .null .usual = .ok innerTree) {escaping : Escaping}
    {included : String → List Value → Outline} {depth : Nat}
    (hle : ∀ frames, OutlineLe escaping (included tok.value frames)
      (outlineNodes included depth innerTree.body frames)) :
    ∃ tree', parse (a ++ (p ++ b)) .null .usual = .ok tree' ∧
      WritesLe escaping included depth tree.body tree'.body := by
  have hrun := tokenize_eq_ok_iff.1 htokens
  have hreads := reads_of_parse htokens htree
  have hbody := reads_of_parse hinner hinnerTree
  have hindent : tok.indent = "" :=
    (hrun.indentIn rfl Delimiters.isPlain_usual (resumes_start _ _) tok htok).inline hkind halone
  rw [String.toList_append, String.toList_append] at hrun halone
  obtain ⟨init, spot, u, q, w, rest, v, mid, init', e, spot', z, mid', rest', rfl, rfl, hsplit,
    hrun', hmid, hrest⟩ := hrun.inline htok hkind hdelims hstart hstop halone
      (tokenize_eq_ok_iff.1 hinner) hinset
  have htokens' : tokenize (a ++ (p ++ b)) .null .usual =
      .ok (init' ++ (textToken e spot' (z ++ w) ++ rest')) := by
    rw [tokenize_eq_ok_iff, String.toList_append, String.toList_append]
    exact hrun'
  -- There is no pragma for filters in any of the parts.
  have hno' := hno _ htokens'
  have htext {d : Delimiters} {pos : Position} {cs : List Char} :
      ∀ t ∈ textToken d pos cs, ¬ t.IsFiltersPragma := not_isFiltersPragma_of_mem_textToken
  rw [List.forall_mem_append, List.forall_mem_append] at hno'
  obtain ⟨hinit', -, hrestNo'⟩ := hno'
  have hfront : ∀ t ∈ init ++ (textToken .usual spot (u ++ v) ++ mid'), ¬ t.IsFiltersPragma := by
    rw [hsplit, List.forall_mem_append]
    exact ⟨hinit', htext⟩
  rw [List.forall_mem_append, List.forall_mem_append] at hfront
  obtain ⟨hinit, -, hmidNo'⟩ := hfront
  have hmidNo := forall_not_isFiltersPragma_of_like hmid hmidNo'
  have hrestNo := forall_not_isFiltersPragma_of_like hrest hrestNo'
  -- The nodes of the source take the place of the tag.
  rw [← List.singleton_append, ← List.append_assoc] at hreads
  obtain ⟨ns₁, hns₁, hle₁⟩ := Reads.inline (List.forall_mem_append.2 ⟨hinit, htext⟩)
    (List.forall_mem_append.2 ⟨htext, hrestNo⟩) (List.forall_mem_append.2 ⟨htext, hmidNo⟩) hkind
    hindent hbody hle hreads
  -- The text in front of the tag and the first one of the source are one.
  rw [List.append_assoc, List.append_assoc] at hns₁
  obtain ⟨ns₂, hns₂, hle₂⟩ := hns₁.join_texts escaping included depth hinit
    (List.forall_mem_append.2 ⟨hmidNo, List.forall_mem_append.2 ⟨htext, hrestNo⟩⟩)
  -- The tokens of the source and those behind it stand elsewhere.
  have helsewhere : Elsewhere
      (init ++ (textToken .usual spot (u ++ v) ++ (mid ++ (textToken e q w ++ rest))))
      (init' ++ (textToken e spot' z ++ (textToken e q w ++ rest'))) := by
    rw [← List.append_assoc init', ← hsplit]
    simp only [List.append_assoc]
    exact List.rel_append (elsewhere_refl _) (List.rel_append (elsewhere_refl _)
      (List.rel_append hmid (List.rel_append (elsewhere_refl _) hrest)))
  obtain ⟨ns₃, hns₃, hlike⟩ := hns₂.like helsewhere
  -- The last text of the source and the one behind the tag are one.
  obtain ⟨ns₄, hns₄, hle₄⟩ := hns₃.join_texts escaping included depth hinit' hrestNo'
  obtain ⟨tree', hparse, rfl⟩ := exists_parse_iff.2 ⟨_, htokens', hns₄⟩
  refine ⟨tree', hparse, (hle₁.trans hle₂).trans (WritesLe.trans (fun frames => ?_) hle₄)⟩
  rw [outlineNodes_eq_of_like included depth hlike]
  exact .refl _

end

end Mustache
