import UptimeGreeter.Proofs.Http.Target

/-!
How a request target is written once it has been read: as it came, but for its fragment, the letters
of a web scheme, and the path that an absolute address left out.
-/

namespace UptimeGreeter.Http

def withoutFragment (text : List Char) : List Char :=
  text.takeWhile (· ≠ '#')

inductive WrittenAs : List Char → List Char → Prop
  | plain {target : List Char} : (target.head? = some '/' ∨ IsAuthority target) →
      WrittenAs target (withoutFragment target)
  | absolute {scheme authority rest : List Char} :
      (∀ char ∈ scheme, Uri.isSchemeChar char) → IsAuthority authority →
      rest.head? = some '/' →
      WrittenAs (scheme ++ ':' :: '/' :: '/' :: (authority ++ rest))
        ((Uri.schemeText scheme).toList ++ ':' :: '/' :: '/' :: (authority ++ withoutFragment rest))
  | bareAbsolute {scheme authority rest : List Char} :
      (∀ char ∈ scheme, Uri.isSchemeChar char) → IsAuthority authority → FollowsPath rest →
      WrittenAs (scheme ++ ':' :: '/' :: '/' :: (authority ++ rest))
        ((Uri.schemeText scheme).toList ++
          ':' :: '/' :: '/' :: (authority ++ '/' :: withoutFragment rest))

theorem IsAuthority.withoutFragment_eq {text : List Char} (isAuthority : IsAuthority text) :
    withoutFragment text = text := by
  apply List.takeWhile_eq_self_iff.mpr
  intro char inside
  have unbroken := isAuthority.unbroken char inside
  simp only [Uri.endsAuthority, decide_eq_false_iff_not, List.mem_cons, not_or] at unbroken
  simpa using unbroken.2.2.1

theorem followsPath_or_slash {rest : List Char}
    (ends : ∀ char ∈ rest.head?, Uri.endsAuthority char = true) :
    rest.head? = some '/' ∨ rest.head? ≠ some '/' ∧ FollowsPath rest := by
  by_cases slash : rest.head? = some '/'
  · exact .inl slash
  · refine .inr ⟨slash, ?_⟩
    intro char first
    have mark := ends char first
    simp only [Uri.endsAuthority, List.mem_cons, List.not_mem_nil, or_false,
      decide_eq_true_eq] at mark
    rcases mark with rfl | rfl | rfl
    · exact absurd first slash
    · rfl
    · rfl

namespace Uri

variable {uri : Uri}

theorem toList_of_pathWithQuery {text : List Char} {path : String} {query : Option String}
    (read : pathWithQuery text = .ok (path, query)) :
    path.toList ++ ((query.map ("?" ++ ·)).getD "").toList = withoutFragment text := by
  dsimp only [pathWithQuery] at read
  split at read
  · split at read
    · cases read
      simp [withoutFragment]
    · cases read
  · rename_i before after cut
    split at read
    · cases read
      rw [withoutFragment, Split.eq_append_of_once? cut]
      simp
    · cases read

theorem isEmpty_of_pathWithQuery {text : List Char} {path : String} {query : Option String}
    (read : pathWithQuery text = .ok (path, query))
    (ends : ∀ char ∈ text.head?, endsAuthority char = true) :
    path.isEmpty = true ↔ text.head? ≠ some '/' := by
  rw [String.isEmpty_iff, ← String.toList_eq_nil_iff, path_of_pathWithQuery read]
  rcases followsPath_or_slash ends with slash | ⟨noSlash, follows⟩
  · obtain ⟨rest, rfl⟩ := List.head?_eq_some_iff.mp slash
    simp [List.takeWhile_cons_of_pos, endsPath]
  · have nothing : ([] ++ text).takeWhile (!endsPath ·) = [] :=
      follows.takeWhile_append (by simp)
    rw [List.nil_append] at nothing
    simp [nothing, noSlash]

theorem text_of_ofAbsolute {scheme authority rest : List Char} (isAuthority : IsAuthority authority)
    (ends : ∀ char ∈ rest.head?, endsAuthority char = true)
    (read : ofAbsolute scheme (authority ++ rest) = .ok uri) :
    uri.text.toList = (schemeText scheme).toList ++ ':' :: '/' :: '/' ::
      (authority ++
        if rest.head? = some '/' then withoutFragment rest else '/' :: withoutFragment rest) := by
  obtain ⟨_, _, path, query, split, _, found, rfl⟩ := parts_of_ofAbsolute read
  obtain ⟨rfl, rfl⟩ := Prod.mk.inj (splitAuthority_append isAuthority.unbroken ends split)
  have empty := isEmpty_of_pathWithQuery found ends
  rw [← toList_of_pathWithQuery found]
  by_cases absent : path.isEmpty = true
  · rw [if_neg (empty.mp absent)]
    simp [text, String.isEmpty_iff.mp absent]
  · rw [if_pos (not_not.mp (mt empty.mpr absent))]
    simp [text, absent]

namespace Form

theorem text_of_slash {rest : List Char} (form : Form ('/' :: rest) uri) :
    uri.text.toList = withoutFragment ('/' :: rest) := by
  cases form with
  | origin found =>
      rw [← toList_of_pathWithQuery found]
      simp [text]
  | absolute split _ => cases split
  | authority nonempty _ _ split =>
      have isAuthority := isAuthority_of_splitAuthority split nonempty
      exact absurd (isAuthority.unbroken '/' List.mem_cons_self) (by decide)

theorem text_of_authority {target : List Char} (isAuthority : IsAuthority target)
    (form : Form target uri) : uri.text.toList = target := by
  cases form with
  | asterisk => rfl
  | origin _ => exact absurd (isAuthority.unbroken '/' List.mem_cons_self) (by decide)
  | absolute split _ =>
      rw [splitScheme?_eq_none isAuthority.unbroken] at split
      cases split
  | authority _ _ _ _ => simp [text]

end Form

theorem writtenAs_of_form {target : List Char} (form : Form target uri) :
    WrittenAs target uri.text.toList := by
  cases form with
  | asterisk => exact .plain (.inr (by decide))
  | origin found =>
      rw [(Form.origin found).text_of_slash]
      exact .plain (.inl rfl)
  | @absolute _ scheme rest _ split read =>
      obtain ⟨rfl, chars⟩ := eq_of_splitScheme? split
      obtain ⟨authority, after, _, _, cut, nonempty, _, _⟩ := parts_of_ofAbsolute read
      have isAuthority := isAuthority_of_splitAuthority cut nonempty
      have ends := head?_of_splitAuthority cut
      obtain rfl := append_of_splitAuthority cut
      rw [text_of_ofAbsolute isAuthority ends read]
      rcases followsPath_or_slash ends with slash | ⟨noSlash, follows⟩
      · rw [if_pos slash]
        exact .absolute chars isAuthority slash
      · rw [if_neg noSlash]
        exact .bareAbsolute chars isAuthority follows
  | authority nonempty noAsterisk noScheme split =>
      have isAuthority := isAuthority_of_splitAuthority split nonempty
      have whole :=
        (Form.authority nonempty noAsterisk noScheme split).text_of_authority isAuthority
      rw [whole]
      have written := WrittenAs.plain (.inr isAuthority)
      rw [isAuthority.withoutFragment_eq] at written
      exact written

theorem writtenAs_iff {target : String} (read : ofText target = .ok uri) (text : String) :
    WrittenAs target.toList text.toList ↔ text = uri.text := by
  have form := form_of_ofText read
  constructor
  · intro written
    apply String.toList_injective
    generalize target.toList = chars at written form
    generalize text.toList = shown at written
    cases written with
    | plain shape =>
        rcases shape with slash | isAuthority
        · obtain ⟨rest, rfl⟩ := List.head?_eq_some_iff.mp slash
          exact form.text_of_slash.symm
        · rw [isAuthority.withoutFragment_eq, form.text_of_authority isAuthority]
    | @absolute scheme authority rest schemeChars isAuthority slash =>
        have found := form.ofAbsolute_of_scheme schemeChars (by simp [isAuthority.nonempty])
        have ends : ∀ char ∈ rest.head?, endsAuthority char = true := by
          rw [slash]
          rintro char ⟨⟩
          rfl
        rw [text_of_ofAbsolute isAuthority ends found, if_pos slash]
    | @bareAbsolute scheme authority rest schemeChars isAuthority follows =>
        have found := form.ofAbsolute_of_scheme schemeChars (by simp [isAuthority.nonempty])
        have noSlash : rest.head? ≠ some '/' := by
          intro slash
          exact absurd (follows '/' slash) (by decide)
        rw [text_of_ofAbsolute isAuthority follows.head?_endsAuthority found, if_neg noSlash]
  · rintro rfl
    exact writtenAs_of_form form

end Uri

end UptimeGreeter.Http
