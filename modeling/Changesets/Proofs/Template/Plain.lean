import Changesets.Proofs.Text.Search
import Changesets.Renderer

/-!
Templates in which no delimiter opens. All of such a template is text, and that is what it renders to,
but for one line break at its end.
-/
namespace Changesets.Template

/-- What opens variables, statements and comments. -/
def openings : List String :=
  ["$\x7b\x7b", "$\x7b%", "$\x7b#"]

/-- No delimiter opens in the template. -/
def Plain (template : String) : Prop :=
  ∀ opening ∈ openings, ¬ opening.toList <:+: template.toList

instance : DecidablePred Plain := fun template =>
  inferInstanceAs (Decidable (∀ opening ∈ openings, ¬ opening.toList <:+: template.toList))

/-! ## The end of a template -/

def EndsInBreak (template : String) : Prop :=
  template.toList.getLast? = some '\n' ∨ template.toList.getLast? = some '\r'

instance : DecidablePred EndsInBreak := fun template =>
  inferInstanceAs (Decidable
    (template.toList.getLast? = some '\n' ∨ template.toList.getLast? = some '\r'))

/-- The template as the scan takes it. -/
def withoutFinalBreak (template : String) : String :=
  String.ofList (dropFinalBreak template.toList)

theorem dropFinalBreak_cases (cs : List Char) :
    ((cs.getLast? = some '\n' ∨ cs.getLast? = some '\r') ∧
        ∃ ending ∈ [['\n'], ['\r'], ['\r', '\n']], cs = dropFinalBreak cs ++ ending) ∨
      ¬ (cs.getLast? = some '\n' ∨ cs.getLast? = some '\r') ∧ cs = dropFinalBreak cs := by
  obtain ⟨reversed, rfl⟩ : ∃ reversed : List Char, cs = reversed.reverse :=
    ⟨cs.reverse, cs.reverse_reverse.symm⟩
  rw [dropFinalBreak, List.reverse_reverse, List.getLast?_reverse]
  cases reversed with
  | nil => simp
  | cons c rest =>
      by_cases hn : c = '\n'
      · subst hn
        -- a carriage return belongs to the break if it stands right before the line feed
        cases rest with
        | nil => simp
        | cons d rest => by_cases hd : d = '\r' <;> simp [hd]
      · by_cases hr : c = '\r' <;> simp [hn, hr]

theorem withoutFinalBreak_cases (template : String) :
    (EndsInBreak template ∧
        ∃ ending ∈ ["\n", "\r", "\r\n"], template = withoutFinalBreak template ++ ending) ∨
      ¬ EndsInBreak template ∧ template = withoutFinalBreak template := by
  rcases dropFinalBreak_cases template.toList with ⟨hends, ending, hending, heq⟩ | ⟨hends, heq⟩
  · have hmem := List.mem_map_of_mem (f := String.ofList) hending
    refine .inl ⟨hends, String.ofList ending, hmem, String.toList_injective ?_⟩
    rw [withoutFinalBreak, ← String.ofList_append, String.toList_ofList]
    exact heq
  · refine .inr ⟨hends, String.toList_injective ?_⟩
    rw [withoutFinalBreak, String.toList_ofList]
    exact heq

theorem withoutFinalBreak_eq_self_iff {template : String} :
    withoutFinalBreak template = template ↔ ¬ EndsInBreak template := by
  rcases withoutFinalBreak_cases template with ⟨hends, ending, hending, heq⟩ | ⟨hends, heq⟩
  · refine ⟨fun hself => ?_, fun hnot => absurd hends hnot⟩
    have hempty : ending = "" := String.append_eq_left_iff.1 (heq.symm.trans hself.symm)
    exact absurd hending (hempty ▸ by decide)
  · exact ⟨fun _ => hends, fun _ => heq.symm⟩

theorem Plain.dropFinalBreak {template : String} (h : Plain template) :
    ∀ opening ∈ openings, ¬ opening.toList <:+: Template.dropFinalBreak template.toList := by
  have hprefix : Template.dropFinalBreak template.toList <+: template.toList := by
    rcases dropFinalBreak_cases template.toList with ⟨-, ending, -, heq⟩ | ⟨-, heq⟩
    · exact ⟨ending, heq.symm⟩
    · exact ⟨[], by rw [List.append_nil, ← heq]⟩
  exact fun opening hopening hpart => h opening hopening (hpart.trans hprefix.isInfix)

/-! ## Scanning -/

theorem markerAt?_eq_none {cs : List Char} (h : ∀ opening ∈ openings, ¬ opening.toList <+: cs) :
    markerAt? cs = none := by
  unfold markerAt?
  split
  · next c rest =>
    have hne (d : Char) (hd : String.ofList ['$', '\x7b', d] ∈ openings) : c ≠ d := by
      intro heq
      subst heq
      exact h _ hd ⟨rest, by simp⟩
    rw [if_neg (hne _ (by decide)), if_neg (hne _ (by decide)), if_neg (hne _ (by decide))]
  · rfl

theorem splitAtMarker_of_plain {cs : List Char}
    (h : ∀ opening ∈ openings, ¬ opening.toList <:+: cs) : splitAtMarker cs = (cs, none) := by
  induction cs with
  | nil => rfl
  | cons c cs ih =>
      have hmarker : markerAt? (c :: cs) = none :=
        markerAt?_eq_none fun opening hopening hprefix => h opening hopening hprefix.isInfix
      have hrest : splitAtMarker cs = (cs, none) :=
        ih fun opening hopening hpart => h opening hopening (List.infix_cons hpart)
      rw [splitAtMarker, hmarker, hrest]

theorem scanText_of_plain {cs : List Char} (h : ∀ opening ∈ openings, ¬ opening.toList <:+: cs) :
    scanText .keep cs = ⟨textToken cs 0, .text .keep, []⟩ := by
  rw [scanText]
  simp only [trimFor, splitAtMarker_of_plain h, Nat.sub_self]

/-- All of a template in which nothing opens is one token. -/
theorem scan_of_plain {template : String} (h : Plain template) :
    scan template =
      (textToken (dropFinalBreak template.toList) 0).map fun (token, lines) => ⟨token, 1 + lines⟩ := by
  have hplain := h.dropFinalBreak
  rw [scan]
  cases hcs : dropFinalBreak template.toList with
  | nil => rfl
  | cons c cs =>
      rw [hcs] at hplain
      have hstep : scanStep (.text .keep) (c :: cs) = ⟨textToken (c :: cs) 0, .text .keep, []⟩ :=
        scanText_of_plain hplain
      have hend : ∀ line fuel, scanFrom line (.text .keep) [] fuel = [] := by
        intro line fuel
        cases fuel <;> rfl
      rw [List.length_cons, scanFrom, hstep]
      show _ ++ scanFrom _ (.text .keep) [] cs.length = _
      rw [hend, List.append_nil]

/-! ## Rendering -/

theorem render_of_plain {template : String} (h : Plain template) (context : Context) :
    render template context = .ok (withoutFinalBreak template) := by
  rw [render, parse, scan_of_plain h, withoutFinalBreak]
  cases dropFinalBreak template.toList with
  | nil => rfl
  | cons c cs =>
      show Except.ok (String.ofList (c :: cs) ++ "") = _
      rw [String.append_empty]

end Changesets.Template
