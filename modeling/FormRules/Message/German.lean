/-
  FormRules/Message/German.lean
  =============================
  **German wording.**

  The templates of the built-in rules in German.
-/
import FormRules.Message.Table

namespace FormRules.Message

/-- The German templates by rule. -/
def german : Table :=
  [("accepted", .text "Das Feld :attribute muss akzeptiert werden."),
   ("active_url", .text "Das Feld :attribute ist keine gültige URL."),
   ("after", .text "Das Feld :attribute muss mindestens :after in der Vergangenheit liegen."),
   ("alpha", .text "Das Feld darf nur Buchstaben enthalten."),
   ("alpha_dash",
    .text "Das Feld darf nur Buchstaben, Zahlen, Bindestriche und Unterstriche enthalten."),
   ("alpha_num", .text "Das Feld darf nur Buchstaben und Zahlen enthalten."),
   ("alpha_spaces", .text "Das Feld darf nur Buchstaben und Leerzeichen enthalten."),
   ("alpha_underscore", .text "Das Feld darf nur Buchstaben und Unterstriche enthalten."),
   ("array", .text "Das Feld :attribute muss ein Array sein."),
   ("audio", .text "Das Feld :attribute muss eine Audiodatei sein."),
   ("before", .text "Das Feld :attribute muss mindestens :before in der Zukunft liegen."),
   ("between", .variants
    [("numeric", "Der Wert muss zwischen :min und :max liegen."),
     ("string", "Der Text muss zwischen :min und :max Zeichen lang sein."),
     ("array", "Das Array muss zwischen :min und :max Elemente enthalten."),
     ("file", "Die Datei muss zwischen :min und :max Bytes groß sein."),
     ("files", "Die Dateien müssen zwischen :min und :max Bytes groß sein.")]),
   ("blob", .text "Das Feld :attribute muss ein Blob sein."),
   ("boolean", .text "Das Feld muss ein boolescher Wert sein."),
   ("confirmed", .text "Die Bestätigung des Feldes stimmt nicht überein."),
   ("contains", .text "Das Feld muss :value enthalten."),
   ("credit_card", .text "Das Feld muss eine gültige Kreditkartennummer sein."),
   ("date", .text "Das Feld muss ein gültiges Datum sein."),
   ("datetime", .text "Das Feld :attribute muss ein gültiges Datum mit Uhrzeit sein."),
   ("digits", .text "Das Feld :attribute muss :digits Ziffern haben."),
   ("email", .text "Das Feld muss eine gültige E-Mail-Adresse sein."),
   ("ends_with", .text "Das Feld muss mit einem der folgenden enden: :values."),
   ("file", .variants
    [("default", "Das Feld :attribute muss eine Datei sein."),
     ("kinds", "Das Feld :attribute muss eine Datei des Typs :values sein.")]),
   ("files", .variants
    [("default", "Das Feld :attribute erfordert mindestens eine Datei."),
     ("kinds", "Jede Datei in :attribute muss vom Typ :values sein.")]),
   ("filled", .text "Das Feld :attribute muss einen Wert enthalten."),
   ("gt", .variants
    [("numeric", "Der Wert muss größer als :gt sein."),
     ("string", "Der Text muss länger als :gt Zeichen sein."),
     ("array", "Das Array muss mehr als :gt Elemente enthalten."),
     ("file", "Die Datei muss größer als :gt Bytes sein."),
     ("files", "Die Dateien müssen größer als :gt Bytes sein.")]),
   ("gte", .variants
    [("numeric", "Der Wert muss mindestens :gte sein."),
     ("string", "Der Text muss mindestens :gte Zeichen lang sein."),
     ("array", "Das Array muss mindestens :gte Elemente enthalten."),
     ("file", "Die Datei muss mindestens :gte Bytes groß sein."),
     ("files", "Die Dateien müssen mindestens :gte Bytes groß sein.")]),
   ("image", .text "Das Feld :attribute muss ein Bild sein."),
   ("in", .text "Der Wert des Feldes muss einer der folgenden sein: :values."),
   ("in_array", .text "Der Wert des Feldes muss einer der folgenden sein: :values."),
   ("integer", .text "Das Feld muss eine ganze Zahl sein."),
   ("ip", .text "Das Feld muss eine gültige IP-Adresse sein."),
   ("json", .text "Das Feld :attribute muss ein gültiger JSON-String sein."),
   ("lowercase", .text "Das Feld darf nur Kleinbuchstaben enthalten."),
   ("lt", .variants
    [("numeric", "Der Wert muss kleiner als :lt sein."),
     ("string", "Der Text muss kürzer als :lt Zeichen sein."),
     ("array", "Das Array muss weniger als :lt Elemente enthalten."),
     ("file", "Die Datei muss kleiner als :lt Bytes sein."),
     ("files", "Die Dateien müssen kleiner als :lt Bytes sein.")]),
   ("lte", .variants
    [("numeric", "Der Wert darf höchstens :lte sein."),
     ("string", "Der Text darf höchstens :lte Zeichen lang sein."),
     ("array", "Das Array darf höchstens :lte Elemente enthalten."),
     ("file", "Die Datei darf höchstens :lte Bytes groß sein."),
     ("files", "Die Dateien dürfen höchstens :lte Bytes groß sein.")]),
   ("max", .variants
    [("numeric", "Der Wert darf nicht größer als :max sein."),
     ("string", "Der Text darf nicht länger als :max Zeichen sein."),
     ("array", "Das Array darf nicht mehr als :max Elemente enthalten."),
     ("file", "Die Datei darf nicht größer als :max Bytes sein."),
     ("files", "Die Dateien dürfen nicht größer als :max Bytes sein.")]),
   ("mimes", .text "Das Feld :attribute muss eine Datei des Typs sein: :values."),
   ("min", .variants
    [("numeric", "Der Wert muss mindestens :min sein."),
     ("string", "Der Text muss mindestens :min Zeichen lang sein."),
     ("array", "Das Array muss mindestens :min Elemente enthalten."),
     ("file", "Die Datei muss mindestens :min Bytes groß sein."),
     ("files", "Die Dateien müssen mindestens :min Bytes groß sein.")]),
   ("multiple_of", .text "Der Wert muss ein Vielfaches von :number sein."),
   ("not_contains", .text "Das Feld darf :value nicht enthalten."),
   ("not_in", .text "Der Wert des Feldes darf keiner der folgenden sein: :values."),
   ("numeric", .text "Das Feld :attribute muss eine Zahl sein."),
   ("object", .text "Das Feld :attribute muss ein Objekt sein."),
   ("password", .variants
    [("length", "Das Passwort muss mindestens :length Zeichen lang sein."),
     ("letters", "Das Passwort muss mindestens einen Buchstaben enthalten."),
     ("mixed", "Das Passwort muss mindestens einen Groß- und einen Kleinbuchstaben enthalten."),
     ("numbers", "Das Passwort muss mindestens eine Zahl enthalten."),
     ("symbols", "Das Passwort muss mindestens ein Symbol enthalten.")]),
   ("pattern", .text "Das erwartete Muster ist :pattern."),
   ("phone", .text "Das Feld muss eine gültige Telefonnummer sein."),
   ("range", .text "Der Wert muss zwischen :min und :max liegen."),
   ("regex", .text "Das Format des Feldes ist ungültig."),
   ("required", .text "Das Feld ist erforderlich."),
   ("required_if", .text "Das Feld ist erforderlich, wenn :other :value ist."),
   ("required_unless",
    .text "Das Feld :attribute ist erforderlich, es sei denn, :other befindet sich in :values."),
   ("required_with", .text "Das Feld :attribute ist erforderlich, wenn :values vorhanden ist."),
   ("required_with_all", .text "Das Feld :attribute ist erforderlich, wenn :values vorhanden sind."),
   ("required_without",
    .text "Das Feld :attribute ist erforderlich, wenn :values nicht vorhanden ist."),
   ("required_without_all",
    .text "Das Feld :attribute ist erforderlich, wenn keines der :values vorhanden ist."),
   ("same", .text "Das Feld muss mit dem Feld :other übereinstimmen."),
   ("starts_with", .text "Das Feld muss mit einem der folgenden beginnen: :values."),
   ("string", .text "Das Feld :attribute muss ein Text sein."),
   ("time", .text "Das Feld :attribute muss eine gültige Uhrzeit sein."),
   ("timestamp", .text "Das Feld :attribute muss ein gültiger Zeitstempel sein."),
   ("uppercase", .text "Das Feld darf nur Großbuchstaben enthalten."),
   ("url", .text "Das Feld muss eine gültige URL sein."),
   ("uuid", .text "Das Feld muss eine gültige UUID sein."),
   ("video", .text "Das Feld :attribute muss ein Video sein.")]

end FormRules.Message
