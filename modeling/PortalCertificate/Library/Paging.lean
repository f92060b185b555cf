import Mathlib.Data.List.Infix

/-!
# A list read in pages

A reader asks for a number of items at a time and gets the next ones.  The
pages it has got make up a beginning of the list, and once a page has fewer
items than were asked for, they make up all of it.
-/

namespace PortalCertificate.Library.Paging

/-- How many items a page was asked for, and the items that it has. -/
structure Page (Item : Type) where
  asked : Nat
  items : List Item
  deriving DecidableEq, Repr

section Pages

variable {Item : Type} {list : List Item} {pages : List (Page Item)}

/-- The items of the pages, one page after the other. -/
def contents (pages : List (Page Item)) : List Item :=
  pages.flatMap Page.items

@[simp]
theorem contents_nil : contents ([] : List (Page Item)) = [] := rfl

@[simp]
theorem contents_append (first second : List (Page Item)) :
    contents (first ++ second) = contents first ++ contents second :=
  List.flatMap_append

@[simp]
theorem contents_singleton (page : Page Item) :
    contents [page] = page.items :=
  List.flatMap_singleton ..

/-- The pages are the beginning of a list, and a short page is the last one. -/
structure Paged (list : List Item) (pages : List (Page Item)) : Prop where
  starts : contents pages <+: list
  complete : ∀ page ∈ pages, page.items.length < page.asked →
    contents pages = list

theorem Paged.nil (list : List Item) : Paged list [] where
  starts := List.nil_prefix
  complete := by
    intro page member
    cases member

/-- The next page of a reader who has got some pages. -/
def nextPage (list : List Item) (position asked : Nat) : Page Item where
  asked := asked
  items := (list.drop position).take asked

theorem Paged.next
    (paged : Paged list pages) (asked : Nat) :
    Paged list (pages ++ [nextPage list (contents pages).length asked]) := by
  rcases paged.starts with ⟨rest, split⟩
  have dropped : list.drop (contents pages).length = rest := by
    rw [← split, List.drop_left]
  have grown :
      contents (pages ++ [nextPage list (contents pages).length asked]) =
        contents pages ++ rest.take asked := by
    rw [contents_append, contents_singleton, nextPage, dropped]
  constructor
  · rw [grown, ← split]
    exact List.prefix_append_right_inj _ |>.mpr (List.take_prefix _ _)
  · intro page member short
    rw [grown]
    rcases List.mem_append.mp member with before | last
    · -- The earlier pages have got everything.
      have all := paged.complete page before short
      have nothing : rest = [] := by
        rw [all] at split
        exact List.append_right_eq_self.mp split
      rw [all, nothing, List.take_nil, List.append_nil]
    · rw [List.mem_singleton.mp last] at short
      simp only [nextPage, dropped, List.length_take] at short
      rw [List.take_of_length_le (by omega), split]

end Pages

end PortalCertificate.Library.Paging
