import Mathlib.Data.List.TakeWhile
import UptimeGreeter.Http.Uri

/-!
The path of a request target, told from its text: which part of each of the four forms of a target
it is. A target that can be read has one path, and it is the one that is read.
-/

namespace UptimeGreeter

theorem Split.takeWhile_ne_eq {α : Type} [DecidableEq α] (separator : α) (items : List α) :
    items.takeWhile (· ≠ separator) = ((once? separator items).map Prod.fst).getD items := by
  induction items with
  | nil => rfl
  | cons item rest ih =>
      by_cases same : item = separator
      · simp [once?, same]
      · have passed : (item :: rest).takeWhile (· ≠ separator) =
            item :: rest.takeWhile (· ≠ separator) :=
          List.takeWhile_cons_of_pos (by simpa using same)
        rw [passed, ih, once?, if_neg same]
        cases once? separator rest with
        | none => rfl
        | some parts => rfl

namespace Http

def endsPath (char : Char) : Bool :=
  char = '?' || char = '#'

structure IsPath (path : List Char) : Prop where
  begins : path.head? = some '/'
  unbroken : ∀ char ∈ path, endsPath char = false

def FollowsPath (rest : List Char) : Prop :=
  ∀ char ∈ rest.head?, endsPath char = true

structure IsAuthority (authority : List Char) : Prop where
  nonempty : authority ≠ []
  unbroken : ∀ char ∈ authority, Uri.endsAuthority char = false

instance (path : List Char) : Decidable (IsPath path) :=
  decidable_of_iff (path.head? = some '/' ∧ path.all (!endsPath ·))
    ⟨fun ⟨begins, all⟩ => ⟨begins, by simpa using all⟩,
      fun ⟨begins, unbroken⟩ => ⟨begins, by simpa using unbroken⟩⟩

instance (authority : List Char) : Decidable (IsAuthority authority) :=
  decidable_of_iff (authority ≠ [] ∧ authority.all (!Uri.endsAuthority ·))
    ⟨fun ⟨nonempty, all⟩ => ⟨nonempty, by simpa using all⟩,
      fun ⟨nonempty, unbroken⟩ => ⟨nonempty, by simpa using unbroken⟩⟩

/-- The path of a target is a part of its text as it stands there. Only an absolute address
without one has a path that its text does not hold. -/
inductive HasPath : List Char → List Char → Prop
  | asterisk : HasPath ['*'] ['*']
  | origin {path rest : List Char} : IsPath path → FollowsPath rest → HasPath (path ++ rest) path
  | absolute {scheme authority path rest : List Char} :
      (∀ char ∈ scheme, Uri.isSchemeChar char) → IsAuthority authority → IsPath path →
      FollowsPath rest →
      HasPath (scheme ++ ':' :: '/' :: '/' :: (authority ++ (path ++ rest))) path
  | bareAbsolute {scheme authority rest : List Char} :
      (∀ char ∈ scheme, Uri.isSchemeChar char) → IsAuthority authority → FollowsPath rest →
      HasPath (scheme ++ ':' :: '/' :: '/' :: (authority ++ rest)) ['/']
  | authority {authority : List Char} : IsAuthority authority → authority ≠ ['*'] →
      HasPath authority []

theorem followsPath_dropWhile (text : List Char) :
    FollowsPath (text.dropWhile (!endsPath ·)) := by
  intro char first
  have stopped := List.head?_dropWhile_not (!endsPath ·) text
  rw [Option.mem_def.mp first] at stopped
  simpa using stopped

theorem FollowsPath.takeWhile_append {path rest : List Char} (follows : FollowsPath rest)
    (unbroken : ∀ char ∈ path, endsPath char = false) :
    (path ++ rest).takeWhile (!endsPath ·) = path := by
  have passed : ∀ char ∈ path, (!endsPath char) = true := by simpa using unbroken
  rw [List.takeWhile_append_of_pos passed]
  cases rest with
  | nil => simp
  | cons char rest => simp [follows char rfl]

theorem FollowsPath.head?_endsAuthority {rest : List Char} (follows : FollowsPath rest) :
    ∀ char ∈ rest.head?, Uri.endsAuthority char = true := by
  intro char first
  have mark := follows char first
  simp only [endsPath, Bool.or_eq_true, decide_eq_true_eq] at mark
  rcases mark with rfl | rfl
  · rfl
  · rfl

theorem IsPath.head?_endsAuthority {path : List Char} (isPath : IsPath path) (rest : List Char) :
    ∀ char ∈ (path ++ rest).head?, Uri.endsAuthority char = true := by
  intro char first
  rw [List.head?_append, isPath.begins] at first
  obtain rfl := Option.some.inj first
  rfl

namespace Uri

theorem path_of_pathWithQuery {text : List Char} {path : String} {query : Option String}
    (read : pathWithQuery text = .ok (path, query)) :
    path.toList = text.takeWhile (!endsPath ·) := by
  have marks : (fun char => !endsPath char) =
      fun char => decide (decide (char ≠ '?') = true ∧ decide (char ≠ '#') = true) := by
    funext char
    simp [endsPath]
  rw [marks, ← List.takeWhile_takeWhile, Split.takeWhile_ne_eq]
  dsimp only [pathWithQuery] at read
  split at read
  · rename_i whole
    split at read
    · cases read
      rw [whole, String.toList_ofList]
      rfl
    · cases read
  · rename_i before after cut
    split at read
    · cases read
      rw [cut, String.toList_ofList]
      rfl
    · cases read

theorem unbroken_of_pathWithQuery {text : List Char} {path : String} {query : Option String}
    (read : pathWithQuery text = .ok (path, query)) :
    ∀ char ∈ path.toList, endsPath char = false := by
  intro char inside
  rw [path_of_pathWithQuery read] at inside
  simpa using List.mem_takeWhile_imp inside

theorem eq_append_of_pathWithQuery {text : List Char} {path : String} {query : Option String}
    (read : pathWithQuery text = .ok (path, query)) :
    text = path.toList ++ text.dropWhile (!endsPath ·) := by
  rw [path_of_pathWithQuery read, List.takeWhile_append_dropWhile]

theorem eq_of_splitAuthority {text authority rest : List Char}
    (split : splitAuthority text = .ok (authority, rest)) :
    authority = text.takeWhile (!endsAuthority ·) ∧ rest = text.dropWhile (!endsAuthority ·) := by
  dsimp only [splitAuthority] at split
  split at split
  · cases split
  · split at split
    · cases split
      exact ⟨rfl, rfl⟩
    · cases split

theorem head?_of_splitAuthority {text authority rest : List Char}
    (split : splitAuthority text = .ok (authority, rest)) :
    ∀ char ∈ rest.head?, endsAuthority char = true := by
  intro char first
  have stopped := List.head?_dropWhile_not (!endsAuthority ·) text
  rw [← (eq_of_splitAuthority split).2, Option.mem_def.mp first] at stopped
  simpa using stopped

theorem append_of_splitAuthority {text authority rest : List Char}
    (split : splitAuthority text = .ok (authority, rest)) : text = authority ++ rest := by
  obtain ⟨rfl, rfl⟩ := eq_of_splitAuthority split
  rw [List.takeWhile_append_dropWhile]

theorem isAuthority_of_splitAuthority {text authority rest : List Char}
    (split : splitAuthority text = .ok (authority, rest)) (nonempty : authority ≠ []) :
    IsAuthority authority := by
  refine ⟨nonempty, ?_⟩
  intro char inside
  rw [(eq_of_splitAuthority split).1] at inside
  simpa using List.mem_takeWhile_imp inside

theorem splitAuthority_append {authority rest : List Char} {parts : List Char × List Char}
    (unbroken : ∀ char ∈ authority, endsAuthority char = false)
    (ends : ∀ char ∈ rest.head?, endsAuthority char = true)
    (split : splitAuthority (authority ++ rest) = .ok parts) : parts = (authority, rest) := by
  have passed : ∀ char ∈ authority, (!endsAuthority char) = true := by simpa using unbroken
  obtain ⟨taken, left⟩ := eq_of_splitAuthority split
  rw [List.takeWhile_append_of_pos passed] at taken
  rw [List.dropWhile_append_of_pos passed] at left
  refine Prod.ext ?_ ?_
  · cases rest with
    | nil => simpa using taken
    | cons char rest => simpa [ends char rfl] using taken
  · cases rest with
    | nil => simpa using left
    | cons char rest => simpa [ends char rfl] using left

theorem eq_of_splitScheme? {text scheme rest : List Char}
    (split : splitScheme? text = some (scheme, rest)) :
    text = scheme ++ ':' :: '/' :: '/' :: rest ∧ ∀ char ∈ scheme, isSchemeChar char := by
  unfold splitScheme? at split
  split at split
  · rename_i rest' left
    split at split
    · cases split
    · cases split
      constructor
      · rw [← left, List.takeWhile_append_dropWhile]
      · exact fun char inside => List.mem_takeWhile_imp inside
  · cases split

theorem splitScheme?_append {scheme rest : List Char} (chars : ∀ char ∈ scheme, isSchemeChar char)
    (nonempty : rest ≠ []) :
    splitScheme? (scheme ++ ':' :: '/' :: '/' :: rest) = some (scheme, rest) := by
  have colon : isSchemeChar ':' = false := by decide
  have length : 0 < rest.length := List.length_pos_iff.mpr nonempty
  have long : ¬(scheme ++ ':' :: '/' :: '/' :: rest).length ≤ 3 := by
    simp only [List.length_append, List.length_cons]
    omega
  rw [splitScheme?, List.takeWhile_append_of_pos chars, List.dropWhile_append_of_pos chars,
    List.takeWhile_cons_of_neg (by simp [colon]), List.dropWhile_cons_of_neg (by simp [colon]),
    List.append_nil]
  exact if_neg long

theorem splitScheme?_eq_none {text : List Char}
    (unbroken : ∀ char ∈ text, endsAuthority char = false) : splitScheme? text = none := by
  cases split : splitScheme? text with
  | none => rfl
  | some parts =>
      obtain ⟨whole, _⟩ := eq_of_splitScheme? split
      have slash := unbroken '/' (by rw [whole]; simp)
      exact absurd slash (by decide)

theorem isPath_of_pathWithQuery {text : List Char} {path : String} {query : Option String}
    (read : pathWithQuery text = .ok (path, query))
    (starts : ∀ char ∈ text.head?, endsAuthority char = true) (nonempty : path.toList ≠ []) :
    IsPath path.toList := by
  refine ⟨?_, unbroken_of_pathWithQuery read⟩
  rw [path_of_pathWithQuery read] at nonempty ⊢
  cases text with
  | nil => simp at nonempty
  | cons char rest =>
      have mark : endsAuthority char = true := starts char rfl
      simp only [endsAuthority, List.mem_cons, List.not_mem_nil, or_false,
        decide_eq_true_eq] at mark
      rcases mark with rfl | rfl | rfl
      · rw [List.takeWhile_cons_of_pos (by rfl), List.head?_cons]
      · exact absurd (List.takeWhile_cons_of_neg (by decide)) nonempty
      · exact absurd (List.takeWhile_cons_of_neg (by decide)) nonempty

theorem parts_of_ofAbsolute {scheme rest : List Char} {uri : Uri}
    (read : ofAbsolute scheme rest = .ok uri) :
    ∃ authority after path query, splitAuthority rest = .ok (authority, after) ∧ authority ≠ [] ∧
      pathWithQuery after = .ok (path, query) ∧
      uri = ⟨some (schemeText scheme), some (String.ofList authority),
        if path.isEmpty then "/" else path, query⟩ := by
  unfold ofAbsolute at read
  split_ifs at read with long bare
  split at read
  · cases read
  · rename_i authority after split
    split_ifs at read with empty
    split at read
    · cases read
    · rename_i path query found
      cases read
      exact ⟨authority, after, path, query, split, by simpa using empty, found, rfl⟩

theorem hasPath_of_ofAbsolute {scheme rest : List Char} {uri : Uri}
    (chars : ∀ char ∈ scheme, isSchemeChar char) (read : ofAbsolute scheme rest = .ok uri) :
    HasPath (scheme ++ ':' :: '/' :: '/' :: rest) uri.path.toList := by
  obtain ⟨authority, after, path, query, split, nonempty, found, rfl⟩ := parts_of_ofAbsolute read
  have isAuthority := isAuthority_of_splitAuthority split nonempty
  have whole := eq_append_of_pathWithQuery found
  rw [append_of_splitAuthority split]
  by_cases absent : path.isEmpty = true
  · have follows : FollowsPath after := by
      rw [whole, String.isEmpty_iff.mp absent]
      exact followsPath_dropWhile after
    simp only [if_pos absent]
    exact .bareAbsolute chars isAuthority follows
  · have starts : ∀ char ∈ after.head?, endsAuthority char = true := by
      intro char first
      have stopped := List.head?_dropWhile_not (!endsAuthority ·) rest
      rw [← (eq_of_splitAuthority split).2, Option.mem_def.mp first] at stopped
      simpa using stopped
    have isPath := isPath_of_pathWithQuery found starts (by simpa using absent)
    rw [whole]
    simp only [if_neg absent]
    exact .absolute chars isAuthority isPath (followsPath_dropWhile after)

inductive Form : List Char → Uri → Prop
  | asterisk : Form ['*'] ⟨none, none, "*", none⟩
  | origin {rest : List Char} {path : String} {query : Option String} :
      pathWithQuery ('/' :: rest) = .ok (path, query) →
        Form ('/' :: rest) ⟨none, none, path, query⟩
  | absolute {text scheme rest : List Char} {uri : Uri} :
      splitScheme? text = some (scheme, rest) → ofAbsolute scheme rest = .ok uri → Form text uri
  | authority {text : List Char} :
      text ≠ [] → text ≠ ['*'] → splitScheme? text = none → splitAuthority text = .ok (text, []) →
        Form text ⟨none, some (String.ofList text), "", none⟩

theorem form_of_ofText {target : String} {uri : Uri} (read : ofText target = .ok uri) :
    Form target.toList uri := by
  unfold ofText at read
  split_ifs at read with long
  split at read
  · cases read
  · rename_i text
    cases read
    rw [text]
    exact .asterisk
  · rename_i rest text
    split at read
    · cases read
    · rename_i path query found
      cases read
      rw [text]
      exact .origin found
  · rename_i noText noAsterisk noSlash
    split at read
    · rename_i scheme rest split
      exact .absolute split read
    · rename_i noScheme
      unfold ofAuthority at read
      split at read
      · cases read
      · rename_i authority rest split
        split_ifs at read with bare
        cases read
        have whole := append_of_splitAuthority split
        rw [List.isEmpty_iff.mp bare, List.append_nil] at whole
        rw [List.isEmpty_iff.mp bare, ← whole] at split
        rw [← whole]
        exact .authority noText noAsterisk noScheme split

theorem hasPath_of_form {text : List Char} {uri : Uri} (form : Form text uri) :
    HasPath text uri.path.toList := by
  cases form with
  | asterisk => exact .asterisk
  | @origin rest path query found =>
      have slash : path.toList ≠ [] := by
        rw [path_of_pathWithQuery found, List.takeWhile_cons_of_pos (by rfl)]
        exact List.cons_ne_nil _ _
      have isPath := isPath_of_pathWithQuery found (by rintro char ⟨⟩; rfl) slash
      rw [eq_append_of_pathWithQuery found]
      exact .origin isPath (followsPath_dropWhile _)
  | absolute split read =>
      obtain ⟨rfl, chars⟩ := eq_of_splitScheme? split
      exact hasPath_of_ofAbsolute chars read
  | authority nonempty noAsterisk _ split =>
      exact .authority (isAuthority_of_splitAuthority split nonempty) noAsterisk

theorem path_of_ofAbsolute {scheme authority rest : List Char} {uri : Uri}
    (isAuthority : IsAuthority authority)
    (ends : ∀ char ∈ rest.head?, endsAuthority char = true)
    (read : ofAbsolute scheme (authority ++ rest) = .ok uri) :
    uri.path.toList =
      if rest.takeWhile (!endsPath ·) = [] then ['/'] else rest.takeWhile (!endsPath ·) := by
  obtain ⟨_, _, path, query, split, _, found, whole⟩ := parts_of_ofAbsolute read
  have shown : uri.path = if path.isEmpty then "/" else path := congrArg Uri.path whole
  obtain ⟨rfl, rfl⟩ := Prod.mk.inj (splitAuthority_append isAuthority.unbroken ends split)
  rw [← path_of_pathWithQuery found, shown]
  by_cases absent : path.isEmpty = true
  · rw [if_pos absent, if_pos (by rw [String.isEmpty_iff.mp absent]; rfl)]
    rfl
  · rw [if_neg absent, if_neg (by simpa using absent)]

namespace Form

variable {uri : Uri}

theorem path_of_slash {rest : List Char} (form : Form ('/' :: rest) uri) :
    uri.path.toList = ('/' :: rest).takeWhile (!endsPath ·) := by
  have noScheme : splitScheme? ('/' :: rest) = none := rfl
  cases form with
  | origin found => exact path_of_pathWithQuery found
  | absolute split _ =>
      rw [noScheme] at split
      cases split
  | authority nonempty _ _ split =>
      have isAuthority := isAuthority_of_splitAuthority split nonempty
      exact absurd (isAuthority.unbroken '/' List.mem_cons_self) (by decide)

theorem ofAbsolute_of_scheme {scheme rest : List Char} (chars : ∀ char ∈ scheme, isSchemeChar char)
    (nonempty : rest ≠ []) (form : Form (scheme ++ ':' :: '/' :: '/' :: rest) uri) :
    ofAbsolute scheme rest = .ok uri := by
  have schemed := splitScheme?_append chars nonempty
  generalize whole : scheme ++ ':' :: '/' :: '/' :: rest = text at form schemed
  cases form with
  | asterisk => cases schemed
  | origin _ => cases schemed
  | absolute split read =>
      rw [schemed] at split
      cases split
      exact read
  | authority _ _ noScheme _ =>
      rw [schemed] at noScheme
      cases noScheme

theorem path_of_authority {text : List Char} (isAuthority : IsAuthority text)
    (noAsterisk : text ≠ ['*']) (form : Form text uri) : uri.path = "" := by
  cases form with
  | asterisk => exact absurd rfl noAsterisk
  | origin _ => exact absurd (isAuthority.unbroken '/' List.mem_cons_self) (by decide)
  | absolute split _ =>
      rw [splitScheme?_eq_none isAuthority.unbroken] at split
      cases split
  | authority _ _ _ _ => rfl

end Form

theorem hasPath_iff {target : String} {uri : Uri} (read : ofText target = .ok uri)
    (path : String) : HasPath target.toList path.toList ↔ path = uri.path := by
  have form := form_of_ofText read
  constructor
  · intro has
    apply String.toList_injective
    generalize text : target.toList = chars at has form
    generalize path.toList = shown at has
    cases has with
    | asterisk =>
        have whole : target = "*" := String.toList_injective text
        subst whole
        cases read
        rfl
    | @origin _ rest isPath follows =>
        have shown := follows.takeWhile_append isPath.unbroken
        obtain ⟨segment, rfl⟩ := List.head?_eq_some_iff.mp isPath.begins
        rw [form.path_of_slash]
        exact shown.symm
    | @absolute scheme authority _ rest schemeChars isAuthority isPath follows =>
        have found := form.ofAbsolute_of_scheme schemeChars (by simp [isAuthority.nonempty])
        rw [path_of_ofAbsolute isAuthority (isPath.head?_endsAuthority rest) found,
          follows.takeWhile_append isPath.unbroken, if_neg]
        rintro rfl
        cases isPath.begins
    | @bareAbsolute scheme authority rest schemeChars isAuthority follows =>
        have found := form.ofAbsolute_of_scheme schemeChars (by simp [isAuthority.nonempty])
        have bare : ([] ++ rest).takeWhile (!endsPath ·) = [] :=
          follows.takeWhile_append (by simp)
        rw [List.nil_append] at bare
        rw [path_of_ofAbsolute isAuthority follows.head?_endsAuthority found, bare, if_pos rfl]
    | authority isAuthority noAsterisk =>
        rw [form.path_of_authority isAuthority noAsterisk]
        rfl
  · rintro rfl
    exact hasPath_of_form form

end Uri

end Http

end UptimeGreeter
