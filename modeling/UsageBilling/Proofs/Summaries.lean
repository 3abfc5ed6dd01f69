import Mathlib.Data.List.Basic
import UsageBilling.Notification.Summary

/-!
# Summaries as HTML

Each line of a summary is a paragraph, and what stands in the paragraph is no
markup, whatever the line is: the characters of tags and quotations are escaped,
and so is the ampersand that begins an escape. So the HTML can be divided into
paragraphs in one way only, and undoing the escapes in them gives the lines back.
-/

namespace UsageBilling

namespace Text

/-! ## Escapes -/

/-- The escapes, by the characters that they stand for. -/
def escapes : List (Char × List Char) :=
  [('&', "&amp;".toList), ('<', "&lt;".toList), ('>', "&gt;".toList), ('"', "&quot;".toList),
    ('\'', "&#x27;".toList)]

/-- Nothing in the text is markup: no character belongs to a tag or a quotation, and with each
ampersand an escape begins. -/
structure NoMarkup (cs : List Char) : Prop where
  untagged : ∀ c ∈ cs, c ∉ ['<', '>', '"', '\'']
  escaped : ∀ before after, cs = before ++ '&' :: after → ∃ e ∈ escapes, e.2 <+: '&' :: after

/-- The text with its escapes undone. -/
def unescape : List Char → List Char
  | '&' :: 'a' :: 'm' :: 'p' :: ';' :: cs => '&' :: unescape cs
  | '&' :: 'l' :: 't' :: ';' :: cs => '<' :: unescape cs
  | '&' :: 'g' :: 't' :: ';' :: cs => '>' :: unescape cs
  | '&' :: 'q' :: 'u' :: 'o' :: 't' :: ';' :: cs => '"' :: unescape cs
  | '&' :: '#' :: 'x' :: '2' :: '7' :: ';' :: cs => '\'' :: unescape cs
  | c :: cs => c :: unescape cs
  | [] => []

/-- A character is escaped, or stands for itself. -/
theorem escapeChar_cases (c : Char) :
    (c, escapeChar c) ∈ escapes ∨
      escapeChar c = [c] ∧ c ≠ '&' ∧ c ∉ ['<', '>', '"', '\''] := by
  unfold escapeChar
  split
  case h_6 amp lt gt quot apos => exact .inr ⟨rfl, amp, by simp; exact ⟨lt, gt, quot, apos⟩⟩
  all_goals exact .inl (by decide)

theorem escape_cons (c : Char) (cs : List Char) : escape (c :: cs) = escapeChar c ++ escape cs :=
  List.flatMap_cons

theorem unescape_cons {c : Char} (plain : c ≠ '&') (cs : List Char) :
    unescape (c :: cs) = c :: unescape cs := by
  rw [unescape]
  all_goals simp [plain]

/-- An escape is undone. -/
theorem unescape_escapeChar (c : Char) (cs : List Char) :
    unescape (escapeChar c ++ cs) = c :: unescape cs := by
  unfold escapeChar
  split
  case h_6 amp _ _ _ _ => exact unescape_cons amp cs
  all_goals rfl

/-- What was escaped is recovered. -/
theorem unescape_escape (cs : List Char) : unescape (escape cs) = cs := by
  induction cs with
  | nil => rfl
  | cons c cs ih => rw [escape_cons, unescape_escapeChar, ih]

example : escape "&lt;".toList = "&amp;lt;".toList := by decide

/-- An escape has its ampersand in front, and only there. -/
theorem escapes_ampersand {e : Char × List Char} (h : e ∈ escapes) {before after : List Char}
    (split : e.2 = before ++ '&' :: after) : before = [] := by
  have heads : ∀ e ∈ escapes, '&' ∉ e.2.tail := by decide
  cases before with
  | nil => rfl
  | cons c before =>
    refine absurd ?_ (heads e h)
    rw [split]
    simp

theorem escapes_untagged : ∀ e ∈ escapes, ∀ c ∈ e.2, c ∉ ['<', '>', '"', '\''] := by
  have untagged : escapes.all (fun e => e.2.all fun c => c ∉ ['<', '>', '"', '\'']) = true := rfl
  simpa using untagged

theorem noMarkup_nil : NoMarkup [] where
  untagged := by rintro _ ⟨⟩
  escaped := by
    intro before after same
    exact absurd same.symm (by simp)

/-- A character that stands for itself is no markup. -/
theorem NoMarkup.plain {c : Char} {cs : List Char} (h : NoMarkup cs) (amp : c ≠ '&')
    (untagged : c ∉ ['<', '>', '"', '\'']) : NoMarkup (c :: cs) where
  untagged := List.forall_mem_cons.2 ⟨untagged, h.untagged⟩
  escaped := by
    intro before after same
    cases before with
    | nil => exact absurd (List.cons.inj same).1 amp
    | cons d before => exact h.escaped before after (List.cons.inj same).2

/-- An escape is no markup. -/
theorem NoMarkup.escape {e : Char × List Char} {cs : List Char} (h : NoMarkup cs)
    (known : e ∈ escapes) : NoMarkup (e.2 ++ cs) where
  untagged := by
    intro c member
    rcases List.mem_append.1 member with member | member
    · exact escapes_untagged e known c member
    · exact h.untagged c member
  escaped := by
    intro before after same
    -- the ampersand stands in the rest, or it is the one of this escape
    rcases List.append_eq_append_iff.1 same with ⟨between, rfl, rest⟩ | ⟨between, first, rest⟩
    · exact h.escaped between after rest
    · cases between with
      | nil => exact h.escaped [] after (by simpa using rest.symm)
      | cons d between =>
        obtain ⟨rfl, -⟩ := List.cons.inj rest
        obtain rfl := escapes_ampersand known first
        exact ⟨e, known, cs, by rw [first, rest]; rfl⟩

/-- No text is markup once it is escaped. -/
theorem noMarkup_escape (cs : List Char) : NoMarkup (escape cs) := by
  induction cs with
  | nil => exact noMarkup_nil
  | cons c cs ih =>
    rw [escape_cons]
    rcases escapeChar_cases c with known | ⟨same, amp, untagged⟩
    · exact ih.escape known
    · rw [same]
      exact ih.plain amp untagged

/-! ## Paragraphs -/

/-- The paragraphs with some contents, one after another. -/
def paragraphs (contents : List (List Char)) : List Char :=
  contents.flatMap fun cs => "<p>".toList ++ cs ++ "</p>".toList

theorem paragraphs_cons (cs : List Char) (contents : List (List Char)) :
    paragraphs (cs :: contents) =
      "<p>".toList ++ (cs ++ '<' :: ("/p>".toList ++ paragraphs contents)) := by
  simp [paragraphs]

/-- The texts in front of the first `c` are equal, and so are those behind it. -/
theorem append_cons_inj {c : Char} {as bs cs ds : List Char} (left : c ∉ as) (right : c ∉ bs)
    (same : as ++ c :: cs = bs ++ c :: ds) : as = bs ∧ cs = ds := by
  have front : ∀ {as : List Char} (rest : List Char), c ∉ as →
      (as ++ c :: rest).takeWhile (· ≠ c) = as := by
    intro as rest none
    have others : ∀ a ∈ as, decide (a ≠ c) = true := fun a member =>
      decide_eq_true (ne_of_mem_of_not_mem member none)
    rw [List.takeWhile_append_of_pos others]
    simp
  have first := congrArg (List.takeWhile (· ≠ c)) same
  rw [front cs left, front ds right] at first
  subst first
  exact ⟨rfl, (List.cons.inj (List.append_cancel_left same)).2⟩

/-- Paragraphs without a tag inside can be told apart. -/
theorem paragraphs_inj {contents others : List (List Char)} (left : ∀ cs ∈ contents, '<' ∉ cs)
    (right : ∀ cs ∈ others, '<' ∉ cs) (same : paragraphs contents = paragraphs others) :
    contents = others := by
  induction contents generalizing others with
  | nil =>
    cases others with
    | nil => rfl
    | cons cs others => exact absurd same (by simp [paragraphs])
  | cons cs contents ih =>
    cases others with
    | nil => exact absurd same (by simp [paragraphs])
    | cons ds others =>
      rw [paragraphs_cons, paragraphs_cons] at same
      obtain ⟨rfl, rest⟩ := append_cons_inj (left cs (by simp)) (right ds (by simp))
        (List.append_cancel_left same)
      rw [ih (fun cs member => left cs (by simp [member]))
        (fun cs member => right cs (by simp [member])) (List.append_cancel_left rest)]

end Text

namespace Summary

open Text

/-! ## Lines -/

/-- The HTML of a summary is one paragraph for each line. -/
theorem html_ofLines (subject : String) (lines : List String) :
    (ofLines subject lines).html.toList =
      paragraphs (lines.map fun line => escape line.toList) := by
  rw [ofLines, String.toList_ofList, paragraphs, List.flatMap_map]
  rfl

theorem unescape_lines (lines : List String) :
    (lines.map fun line => escape line.toList).map unescape = lines.map String.toList := by
  rw [List.map_map]
  exact List.map_congr_left fun line _ => unescape_escape line.toList

/-- No tag begins within a line. -/
theorem untagged_lines (lines : List String) :
    ∀ cs ∈ lines.map fun line => escape line.toList, '<' ∉ cs := by
  intro cs member tag
  obtain ⟨line, -, rfl⟩ := List.mem_map.1 member
  exact (noMarkup_escape line.toList).untagged '<' tag (by decide)

/-- The lines can be told from the HTML. -/
theorem html_ofLines_inj {subject subject' : String} {lines lines' : List String} :
    (ofLines subject lines).html = (ofLines subject' lines').html ↔ lines = lines' := by
  constructor
  · intro same
    have same := congrArg String.toList same
    rw [html_ofLines, html_ofLines] at same
    have contents := congrArg (List.map unescape)
      (paragraphs_inj (untagged_lines lines) (untagged_lines lines') same)
    rw [unescape_lines, unescape_lines] at contents
    exact List.map_injective_iff.2 (fun _ _ => String.toList_inj.1) contents
  · rintro rfl
    rfl

end Summary

/-! ## Entries -/

/-- What a summary is about. -/
inductive Entries where
  | failures (failures : List UsageFailure)
  | records (records : List FailureRecord)
  | undecodable (records : List FailureRecord)

namespace Entries

open Summary Text

/-- The number of entries. -/
def size : Entries → Nat
  | failures fs => fs.length
  | records rs => rs.length
  | undecodable rs => rs.length

/-- The line of each entry, in order. -/
def lines : Entries → List String
  | failures fs => fs.map fun f => line f.payload.instanceId f.message
  | records rs => rs.map fun r => line (instanceOf r) r.message
  | undecodable rs => rs.map undecodableLine

/-- The subject with a number in it. -/
def subject (product number : String) : Entries → String
  | undecodable _ =>
    "[Service Broker " ++ product ++ "] " ++ number ++ " billing records could not be decoded"
  | _ => "[Service Broker " ++ product ++ "] Billing for " ++ number ++ " instances failed"

/-- The summary of the entries. -/
def summary (product : String) : Entries → Summary
  | failures fs => .ofFailures product fs
  | records rs => .ofRecords product rs
  | undecodable rs => .ofUndecodable product rs

theorem length_lines (e : Entries) : e.lines.length = e.size := by
  cases e <;> exact List.length_map _

theorem summary_eq (product : String) (e : Entries) :
    e.summary product = ofLines (e.subject product (toString e.size)) e.lines := by
  cases e <;> rfl

/-- The HTML of a summary is one paragraph for each entry, in order, with no markup inside, and it
can be divided into untagged paragraphs in no other way. Undoing the escapes gives the lines of the
entries back, so the HTML of other lines is another one. The summary, its subject and the paragraphs
all agree on the number of entries. -/
theorem html_shows_lines (product : String) (e : Entries) :
    ∃ contents, (e.summary product).html.toList = paragraphs contents ∧
      (∀ cs ∈ contents, NoMarkup cs) ∧ contents.map unescape = e.lines.map String.toList ∧
      (∀ others, (∀ cs ∈ others, '<' ∉ cs) →
        (e.summary product).html.toList = paragraphs others → others = contents) ∧
      (∀ subject lines, (e.summary product).html = (ofLines subject lines).html ↔
        e.lines = lines) ∧
      contents.length = e.size ∧ (e.summary product).count = e.size ∧
      (e.summary product).subject = e.subject product (toString e.size) := by
  rw [summary_eq]
  refine ⟨e.lines.map fun line => escape line.toList, html_ofLines _ _, ?_, unescape_lines _, ?_,
    fun _ _ => html_ofLines_inj, ?_, e.length_lines, rfl⟩
  · intro cs member
    obtain ⟨line, -, rfl⟩ := List.mem_map.1 member
    exact noMarkup_escape line.toList
  · intro others untagged same
    rw [html_ofLines] at same
    exact (paragraphs_inj (untagged_lines _) untagged same).symm
  · rw [List.length_map, length_lines]

end Entries

end UsageBilling
