import RowMap.Bookshelf.Models
import RowMap.Writer

/-!
# Records of the bookshelf

Taking a record apart and putting it together again changes nothing, so keeping what the store has
assigned changes these three fields alone.
-/

namespace RowMap.Bookshelf

theorem User.ofTree_toTree (u : User) : User.ofTree u.toTree = u := rfl

theorem User.map_ofTree_toTree (u : Option User) : (u.map User.toTree).map User.ofTree = u := by
  cases u <;> rfl

theorem Book.ofTree_toTree (b : Book) : Book.ofTree b.toTree = b := by
  simp only [Book.ofTree, Book.toTree, User.map_ofTree_toTree]

theorem Book.map_ofTree_toTree (b : Option Book) : (b.map Book.toTree).map Book.ofTree = b := by
  cases b with
  | none => rfl
  | some b => simp only [Option.map_some, Book.ofTree_toTree]

theorem ReadingPlan.ofTree_toTree (p : ReadingPlan) : ReadingPlan.ofTree p.toTree = p := by
  simp only [ReadingPlan.ofTree, ReadingPlan.toTree, User.map_ofTree_toTree, Book.map_ofTree_toTree]

theorem User.map_toTree_ofTree (u : Option (Tree User.fields)) :
    (u.map User.ofTree).map User.toTree = u := by
  cases u <;> rfl

theorem Book.toTree_ofTree (r : Tree Book.fields) : (Book.ofTree r).toTree = r := by
  obtain ⟨id, title, author, pages, description, createdAt, version, user, ⟨⟩⟩ := r
  simp only [Book.toTree, Book.ofTree, User.map_toTree_ofTree]
  rfl

theorem Book.map_toTree_ofTree (b : Option (Tree Book.fields)) :
    (b.map Book.ofTree).map Book.toTree = b := by
  cases b with
  | none => rfl
  | some b => simp only [Option.map_some, Book.toTree_ofTree]

theorem ReadingPlan.toTree_ofTree (r : Tree ReadingPlan.fields) :
    (ReadingPlan.ofTree r).toTree = r := by
  obtain ⟨id, status, start, target, priority, pages, minutes, createdAt, version, book, user,
    ⟨⟩⟩ := r
  simp only [ReadingPlan.toTree, ReadingPlan.ofTree, User.map_toTree_ofTree,
    Book.map_toTree_ofTree]
  rfl

theorem applyInserted_book (i : Inserted) (b : Book) :
    Writer.applyInserted i b =
      .ok { b with id := i.id, createdAt := some i.createdAt, version := i.version } := by
  have hkey : Mapped.scanKey b (.of (.bigInt i.id)) =
      .ok (Book.ofTree ({ b with id := i.id } : Book).toTree) :=
    rfl
  rw [Writer.applyInserted, hkey, Book.ofTree_toTree]
  rfl

theorem applyInserted_plan (i : Inserted) (p : ReadingPlan) :
    Writer.applyInserted i p =
      .ok { p with id := i.id, createdAt := some i.createdAt, version := i.version } := by
  have hkey : Mapped.scanKey p (.of (.bigInt i.id)) =
      .ok (ReadingPlan.ofTree ({ p with id := i.id } : ReadingPlan).toTree) := rfl
  rw [Writer.applyInserted, hkey, ReadingPlan.ofTree_toTree]
  rfl

end RowMap.Bookshelf
