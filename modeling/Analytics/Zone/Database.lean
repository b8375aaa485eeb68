import Analytics.Zone.Alias
import Analytics.Zone.Region.Africa
import Analytics.Zone.Region.America
import Analytics.Zone.Region.Antarctica
import Analytics.Zone.Region.Asia
import Analytics.Zone.Region.Atlantic
import Analytics.Zone.Region.Australia
import Analytics.Zone.Region.Etc
import Analytics.Zone.Region.Europe
import Analytics.Zone.Region.Indian
import Analytics.Zone.Region.Pacific

/-!
The zones known by name. Names are matched letter for letter.
-/

namespace Analytics.Zone

def histories : List (String × List Era) :=
  Region.Africa.all ++
    Region.America.all ++
    Region.Antarctica.all ++
    Region.Asia.all ++
    Region.Atlantic.all ++
    Region.Australia.all ++
    Region.Etc.all ++
    Region.Europe.all ++
    Region.Indian.all ++
    Region.Pacific.all

def history? (name : String) : Option (List Era) := histories.lookup name

/-- The zone of a name, an alias keeping its own name. -/
def named? (name : String) : Option Zone :=
  let home := (aliases.lookup name).getD name
  (history? home).map (ofEras name)

end Analytics.Zone
