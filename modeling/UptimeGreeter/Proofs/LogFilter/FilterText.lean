import UptimeGreeter.LogFilter.Filter
import UptimeGreeter.Proofs.LogFilter.DirectiveText
import UptimeGreeter.Proofs.Text.Pieces

/-!
A text is read as a filter of all its directives or not at all: the first piece between the commas
that is no directive spoils it, and the fault of that piece is the fault of the text.
-/

namespace UptimeGreeter.LogFilter.Filter

open Directive (Fault IsShifted)

structure Listed (text : String) (pieces : List (List Char)) : Prop where
  nonempty : pieces ≠ []
  joined : [','].intercalate pieces = text.toList
  apart : ∀ piece ∈ pieces, ',' ∉ piece

def Lists (text : String) (directives : List Directive) : Prop :=
  ∃ pieces, Listed text pieces ∧
    List.Forall₂ (fun piece directive => Directive.ofText (.ofList piece) = .ok directive)
      (pieces.filter (!·.isEmpty)) directives

/-- A text with a piece that has a fault, behind pieces that are directives or empty. -/
def Spoiled (text : String) (fault : Fault) : Prop :=
  ∃ front piece back, Listed text (front ++ piece :: back) ∧
    (∀ earlier ∈ front, earlier ≠ [] →
      ∃ directive, Directive.ofText (.ofList earlier) = .ok directive) ∧
    piece ≠ [] ∧ Directive.ofText (.ofList piece) = .error fault

theorem listed_iff (text : String) (pieces : List (List Char)) :
    Listed text pieces ↔ Split.all ',' text.toList = pieces := by
  rw [Split.all_eq_iff]
  exact ⟨fun listed => ⟨listed.nonempty, listed.joined, listed.apart⟩,
    fun ⟨nonempty, joined, apart⟩ => ⟨nonempty, joined, apart⟩⟩

theorem lists_iff (text : String) (directives : List Directive) :
    Lists text directives ↔ (Filter.pieces text).mapM Directive.ofText = .ok directives := by
  rw [mapM_eq_ok_iff, Filter.pieces, List.forall₂_map_left_iff]
  constructor
  · rintro ⟨pieces, listed, each⟩
    obtain rfl := (listed_iff text pieces).mp listed
    exact each
  · intro each
    exact ⟨_, (listed_iff text _).mpr rfl, each⟩

theorem spoiled_iff (text : String) (fault : Fault) :
    Spoiled text fault ↔ (Filter.pieces text).mapM Directive.ofText = .error fault := by
  rw [mapM_eq_error_iff, Filter.pieces]
  constructor
  · rintro ⟨front, piece, back, listed, passed, nonempty, failed⟩
    rw [(listed_iff text _).mp listed]
    refine ⟨(front.filter (!·.isEmpty)).map .ofList, .ofList piece,
      (back.filter (!·.isEmpty)).map .ofList, ?_, ?_, failed⟩
    · simp [List.filter_append, nonempty]
    · intro earlier member
      simp only [List.mem_map, List.mem_filter] at member
      obtain ⟨chars, ⟨inside, filled⟩, rfl⟩ := member
      exact passed chars inside (by simpa using filled)
  · rintro ⟨front, piece, back, split, passed, failed⟩
    obtain ⟨kept, later, parted, rfl, tail⟩ := List.map_eq_append_iff.mp split
    obtain ⟨chars, _, rfl, rfl, _⟩ := List.map_eq_cons_iff.mp tail
    obtain ⟨early, rest, pieces, rfl, following⟩ := List.filter_eq_append_iff.mp parted
    obtain ⟨empties, back, rfl, empty, filled, _⟩ := List.filter_eq_cons_iff.mp following
    refine ⟨early ++ empties, chars, back, ?_, ?_, by simpa using filled, failed⟩
    · rw [listed_iff, pieces, List.append_assoc]
    · intro earlier member nonempty
      rcases List.mem_append.mp member with inside | inside
      · apply passed
        rw [List.mem_map]
        exact ⟨earlier, List.mem_filter.mpr ⟨inside, by simpa using nonempty⟩, rfl⟩
      · exact absurd (by simpa using empty earlier inside) nonempty

theorem ofText_eq_ok_iff (text : String) (filter : Filter) :
    ofText text = .ok filter ↔
      ∃ directives, Lists text directives ∧ ofDirectives directives = filter := by
  simp only [lists_iff, ofText]
  cases (Filter.pieces text).mapM Directive.ofText <;> simp [Except.map]

theorem ofText_eq_error_iff (text : String) (fault : Fault) :
    ofText text = .error fault ↔ Spoiled text fault := by
  rw [spoiled_iff, ofText]
  cases (Filter.pieces text).mapM Directive.ofText <;> simp [Except.map]

theorem exists_isShifted_of_spoiled {text : String} (cut : Spoiled text .cutCharacter) :
    ∃ pieces, Listed text pieces ∧ ∃ piece ∈ pieces, IsShifted piece := by
  obtain ⟨front, piece, back, listed, _, _, failed⟩ := cut
  have shifted := Directive.isShifted_of_ofText failed
  rw [String.toList_ofList] at shifted
  exact ⟨_, listed, piece, List.mem_append_right _ List.mem_cons_self, shifted⟩

end UptimeGreeter.LogFilter.Filter
