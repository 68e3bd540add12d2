import OrgService.Calendar.Iso
import OrgService.Log.Entry

/-!
# Log events

An event is an entry as a handler of the log receives it: it tells which logger wrote it, when,
and from which line. Loggers have dotted names.
-/

namespace OrgService.Log

/-- An entry on its way to the handlers; `created` counts seconds from the start of 1970. -/
structure Event where
  logger : String
  level : Int
  message : String
  created : Int
  line : Int
  deriving DecidableEq, Repr

namespace Event

def ofEntry (created : Int) (e : Entry) : Event := ⟨e.channel.name, e.level, e.message, created, 1⟩

/-- The number of the first day of 1970. -/
def epochOrdinal : Int := 719163

def timeText (e : Event) : String :=
  let day := (Date.ofOrdinal? (epochOrdinal + e.created.fdiv 86400).toNat).map Date.toString
  let second := (e.created.fmod 86400).toNat
  day.getD "" ++ " " ++ String.ofList (Iso.twoDigits (second / 3600) ++ ':' ::
    Iso.twoDigits (second / 60 % 60) ++ ':' :: Iso.twoDigits (second % 60)) ++ ",000"

end Event

end OrgService.Log
