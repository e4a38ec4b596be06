import LineScript.Options.Reading
import LineScript.Platform.Programs
import LineScript.Table
import LineScript.Text.CharName
import LineScript.Yaml.Document

/-!
# The standard platform
The users that every system knows, the characters that have names here, and programs, documents and
command lines as they are usual.
-/
namespace LineScript

/-- The homes of the users that every system knows. -/
def userHomes : Table String := ⟨[
  ("root", "/root"), ("daemon", "/usr/sbin"), ("bin", "/bin"), ("sys", "/dev"), ("sync", "/bin"),
  ("games", "/usr/games"), ("man", "/var/cache/man"), ("lp", "/var/spool/lpd"),
  ("mail", "/var/mail"), ("news", "/var/spool/news"), ("uucp", "/var/spool/uucp"),
  ("proxy", "/bin"), ("www-data", "/var/www"), ("backup", "/var/backups"), ("list", "/var/list"),
  ("irc", "/run/ircd"), ("_apt", "/nonexistent"), ("nobody", "/nonexistent")]⟩

theorem userHomes_plain : ∀ entry ∈ userHomes.entries, '\x00' ∉ entry.2.toList := by decide

def Users.standard : Users where
  homeOf := userHomes.find?
  own := userHomes.find? "root"
  plain := by
    rintro home (own | ⟨name, known⟩)
    · exact userHomes_plain _ (Table.mem_of_find? own)
    · exact userHomes_plain _ (Table.mem_of_find? known)

instance Platform.standard : Platform where
  users := .standard
  character := Text.namedCode?
  run := Programs.run Programs.maxDepth
  document := Yaml.read
  options := Options.read

end LineScript
