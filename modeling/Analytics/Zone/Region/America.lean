import Analytics.Zone.Era
import Analytics.Zone.Season.Europe
import Analytics.Zone.Season.NorthAmerica
import Analytics.Zone.Season.SouthAmerica

/-!
Histories of the zones named America.
-/

namespace Analytics.Zone.Region.America

def adak : List Era :=
  [ ⟨44002, .fixed 0, some ⟨1867, 10, .on 19, 45875, .wall⟩⟩,
    ⟨-42398, .fixed 0, some ⟨1900, 8, .on 20, 43200, .wall⟩⟩,
    ⟨-39600, .fixed 0, some ⟨1942, 1, .on 1, 0, .wall⟩⟩,
    ⟨-39600, .rules Season.unitedStates, some ⟨1946, 1, .on 1, 0, .wall⟩⟩,
    ⟨-39600, .fixed 0, some ⟨1967, 4, .on 1, 0, .wall⟩⟩,
    ⟨-39600, .fixed 0, some ⟨1969, 1, .on 1, 0, .wall⟩⟩,
    ⟨-39600, .rules Season.unitedStates, some ⟨1983, 10, .on 30, 7200, .wall⟩⟩,
    ⟨-36000, .rules Season.unitedStates, some ⟨1983, 11, .on 30, 0, .wall⟩⟩,
    ⟨-36000, .rules Season.unitedStates, none⟩]

def anchorage : List Era :=
  [ ⟨50424, .fixed 0, some ⟨1867, 10, .on 19, 52297, .wall⟩⟩,
    ⟨-35976, .fixed 0, some ⟨1900, 8, .on 20, 43200, .wall⟩⟩,
    ⟨-36000, .fixed 0, some ⟨1942, 1, .on 1, 0, .wall⟩⟩,
    ⟨-36000, .rules Season.unitedStates, some ⟨1967, 4, .on 1, 0, .wall⟩⟩,
    ⟨-36000, .fixed 0, some ⟨1969, 1, .on 1, 0, .wall⟩⟩,
    ⟨-36000, .rules Season.unitedStates, some ⟨1983, 10, .on 30, 7200, .wall⟩⟩,
    ⟨-32400, .rules Season.unitedStates, some ⟨1983, 11, .on 30, 0, .wall⟩⟩,
    ⟨-32400, .rules Season.unitedStates, none⟩]

def araguaina : List Era :=
  [ ⟨-11568, .fixed 0, some ⟨1914, 1, .on 1, 0, .wall⟩⟩,
    ⟨-10800, .rules Season.brazil, some ⟨1990, 9, .on 17, 0, .wall⟩⟩,
    ⟨-10800, .fixed 0, some ⟨1995, 9, .on 14, 0, .wall⟩⟩,
    ⟨-10800, .rules Season.brazil, some ⟨2003, 9, .on 24, 0, .wall⟩⟩,
    ⟨-10800, .fixed 0, some ⟨2012, 10, .on 21, 0, .wall⟩⟩,
    ⟨-10800, .rules Season.brazil, some ⟨2013, 9, .on 1, 0, .wall⟩⟩,
    ⟨-10800, .fixed 0, none⟩]

def argentinaBuenosAires : List Era :=
  [ ⟨-14028, .fixed 0, some ⟨1894, 10, .on 31, 0, .wall⟩⟩,
    ⟨-15408, .fixed 0, some ⟨1920, 5, .on 1, 0, .wall⟩⟩,
    ⟨-14400, .fixed 0, some ⟨1930, 12, .on 1, 0, .wall⟩⟩,
    ⟨-14400, .rules Season.argentina, some ⟨1969, 10, .on 5, 0, .wall⟩⟩,
    ⟨-10800, .rules Season.argentina, some ⟨1999, 10, .on 3, 0, .wall⟩⟩,
    ⟨-14400, .rules Season.argentina, some ⟨2000, 3, .on 3, 0, .wall⟩⟩,
    ⟨-10800, .rules Season.argentina, none⟩]

def argentinaCatamarca : List Era :=
  [ ⟨-15788, .fixed 0, some ⟨1894, 10, .on 31, 0, .wall⟩⟩,
    ⟨-15408, .fixed 0, some ⟨1920, 5, .on 1, 0, .wall⟩⟩,
    ⟨-14400, .fixed 0, some ⟨1930, 12, .on 1, 0, .wall⟩⟩,
    ⟨-14400, .rules Season.argentina, some ⟨1969, 10, .on 5, 0, .wall⟩⟩,
    ⟨-10800, .rules Season.argentina, some ⟨1991, 3, .on 3, 0, .wall⟩⟩,
    ⟨-14400, .fixed 0, some ⟨1991, 10, .on 20, 0, .wall⟩⟩,
    ⟨-10800, .rules Season.argentina, some ⟨1999, 10, .on 3, 0, .wall⟩⟩,
    ⟨-14400, .rules Season.argentina, some ⟨2000, 3, .on 3, 0, .wall⟩⟩,
    ⟨-10800, .fixed 0, some ⟨2004, 6, .on 1, 0, .wall⟩⟩,
    ⟨-14400, .fixed 0, some ⟨2004, 6, .on 20, 0, .wall⟩⟩,
    ⟨-10800, .rules Season.argentina, some ⟨2008, 10, .on 18, 0, .wall⟩⟩,
    ⟨-10800, .fixed 0, none⟩]

def argentinaCordoba : List Era :=
  [ ⟨-15408, .fixed 0, some ⟨1894, 10, .on 31, 0, .wall⟩⟩,
    ⟨-15408, .fixed 0, some ⟨1920, 5, .on 1, 0, .wall⟩⟩,
    ⟨-14400, .fixed 0, some ⟨1930, 12, .on 1, 0, .wall⟩⟩,
    ⟨-14400, .rules Season.argentina, some ⟨1969, 10, .on 5, 0, .wall⟩⟩,
    ⟨-10800, .rules Season.argentina, some ⟨1991, 3, .on 3, 0, .wall⟩⟩,
    ⟨-14400, .fixed 0, some ⟨1991, 10, .on 20, 0, .wall⟩⟩,
    ⟨-10800, .rules Season.argentina, some ⟨1999, 10, .on 3, 0, .wall⟩⟩,
    ⟨-14400, .rules Season.argentina, some ⟨2000, 3, .on 3, 0, .wall⟩⟩,
    ⟨-10800, .rules Season.argentina, none⟩]

def argentinaJujuy : List Era :=
  [ ⟨-15672, .fixed 0, some ⟨1894, 10, .on 31, 0, .wall⟩⟩,
    ⟨-15408, .fixed 0, some ⟨1920, 5, .on 1, 0, .wall⟩⟩,
    ⟨-14400, .fixed 0, some ⟨1930, 12, .on 1, 0, .wall⟩⟩,
    ⟨-14400, .rules Season.argentina, some ⟨1969, 10, .on 5, 0, .wall⟩⟩,
    ⟨-10800, .rules Season.argentina, some ⟨1990, 3, .on 4, 0, .wall⟩⟩,
    ⟨-14400, .fixed 0, some ⟨1990, 10, .on 28, 0, .wall⟩⟩,
    ⟨-14400, .fixed 3600, some ⟨1991, 3, .on 17, 0, .wall⟩⟩,
    ⟨-14400, .fixed 0, some ⟨1991, 10, .on 6, 0, .wall⟩⟩,
    ⟨-10800, .fixed 3600, some ⟨1992, 1, .on 1, 0, .wall⟩⟩,
    ⟨-10800, .rules Season.argentina, some ⟨1999, 10, .on 3, 0, .wall⟩⟩,
    ⟨-14400, .rules Season.argentina, some ⟨2000, 3, .on 3, 0, .wall⟩⟩,
    ⟨-10800, .rules Season.argentina, some ⟨2008, 10, .on 18, 0, .wall⟩⟩,
    ⟨-10800, .fixed 0, none⟩]

def argentinaLaRioja : List Era :=
  [ ⟨-16044, .fixed 0, some ⟨1894, 10, .on 31, 0, .wall⟩⟩,
    ⟨-15408, .fixed 0, some ⟨1920, 5, .on 1, 0, .wall⟩⟩,
    ⟨-14400, .fixed 0, some ⟨1930, 12, .on 1, 0, .wall⟩⟩,
    ⟨-14400, .rules Season.argentina, some ⟨1969, 10, .on 5, 0, .wall⟩⟩,
    ⟨-10800, .rules Season.argentina, some ⟨1991, 3, .on 1, 0, .wall⟩⟩,
    ⟨-14400, .fixed 0, some ⟨1991, 5, .on 7, 0, .wall⟩⟩,
    ⟨-10800, .rules Season.argentina, some ⟨1999, 10, .on 3, 0, .wall⟩⟩,
    ⟨-14400, .rules Season.argentina, some ⟨2000, 3, .on 3, 0, .wall⟩⟩,
    ⟨-10800, .fixed 0, some ⟨2004, 6, .on 1, 0, .wall⟩⟩,
    ⟨-14400, .fixed 0, some ⟨2004, 6, .on 20, 0, .wall⟩⟩,
    ⟨-10800, .rules Season.argentina, some ⟨2008, 10, .on 18, 0, .wall⟩⟩,
    ⟨-10800, .fixed 0, none⟩]

def argentinaMendoza : List Era :=
  [ ⟨-16516, .fixed 0, some ⟨1894, 10, .on 31, 0, .wall⟩⟩,
    ⟨-15408, .fixed 0, some ⟨1920, 5, .on 1, 0, .wall⟩⟩,
    ⟨-14400, .fixed 0, some ⟨1930, 12, .on 1, 0, .wall⟩⟩,
    ⟨-14400, .rules Season.argentina, some ⟨1969, 10, .on 5, 0, .wall⟩⟩,
    ⟨-10800, .rules Season.argentina, some ⟨1990, 3, .on 4, 0, .wall⟩⟩,
    ⟨-14400, .fixed 0, some ⟨1990, 10, .on 15, 0, .wall⟩⟩,
    ⟨-14400, .fixed 3600, some ⟨1991, 3, .on 1, 0, .wall⟩⟩,
    ⟨-14400, .fixed 0, some ⟨1991, 10, .on 15, 0, .wall⟩⟩,
    ⟨-14400, .fixed 3600, some ⟨1992, 3, .on 1, 0, .wall⟩⟩,
    ⟨-14400, .fixed 0, some ⟨1992, 10, .on 18, 0, .wall⟩⟩,
    ⟨-10800, .rules Season.argentina, some ⟨1999, 10, .on 3, 0, .wall⟩⟩,
    ⟨-14400, .rules Season.argentina, some ⟨2000, 3, .on 3, 0, .wall⟩⟩,
    ⟨-10800, .fixed 0, some ⟨2004, 5, .on 23, 0, .wall⟩⟩,
    ⟨-14400, .fixed 0, some ⟨2004, 9, .on 26, 0, .wall⟩⟩,
    ⟨-10800, .rules Season.argentina, some ⟨2008, 10, .on 18, 0, .wall⟩⟩,
    ⟨-10800, .fixed 0, none⟩]

def argentinaRioGallegos : List Era :=
  [ ⟨-16612, .fixed 0, some ⟨1894, 10, .on 31, 0, .wall⟩⟩,
    ⟨-15408, .fixed 0, some ⟨1920, 5, .on 1, 0, .wall⟩⟩,
    ⟨-14400, .fixed 0, some ⟨1930, 12, .on 1, 0, .wall⟩⟩,
    ⟨-14400, .rules Season.argentina, some ⟨1969, 10, .on 5, 0, .wall⟩⟩,
    ⟨-10800, .rules Season.argentina, some ⟨1999, 10, .on 3, 0, .wall⟩⟩,
    ⟨-14400, .rules Season.argentina, some ⟨2000, 3, .on 3, 0, .wall⟩⟩,
    ⟨-10800, .fixed 0, some ⟨2004, 6, .on 1, 0, .wall⟩⟩,
    ⟨-14400, .fixed 0, some ⟨2004, 6, .on 20, 0, .wall⟩⟩,
    ⟨-10800, .rules Season.argentina, some ⟨2008, 10, .on 18, 0, .wall⟩⟩,
    ⟨-10800, .fixed 0, none⟩]

def argentinaSalta : List Era :=
  [ ⟨-15700, .fixed 0, some ⟨1894, 10, .on 31, 0, .wall⟩⟩,
    ⟨-15408, .fixed 0, some ⟨1920, 5, .on 1, 0, .wall⟩⟩,
    ⟨-14400, .fixed 0, some ⟨1930, 12, .on 1, 0, .wall⟩⟩,
    ⟨-14400, .rules Season.argentina, some ⟨1969, 10, .on 5, 0, .wall⟩⟩,
    ⟨-10800, .rules Season.argentina, some ⟨1991, 3, .on 3, 0, .wall⟩⟩,
    ⟨-14400, .fixed 0, some ⟨1991, 10, .on 20, 0, .wall⟩⟩,
    ⟨-10800, .rules Season.argentina, some ⟨1999, 10, .on 3, 0, .wall⟩⟩,
    ⟨-14400, .rules Season.argentina, some ⟨2000, 3, .on 3, 0, .wall⟩⟩,
    ⟨-10800, .rules Season.argentina, some ⟨2008, 10, .on 18, 0, .wall⟩⟩,
    ⟨-10800, .fixed 0, none⟩]

def argentinaSanJuan : List Era :=
  [ ⟨-16444, .fixed 0, some ⟨1894, 10, .on 31, 0, .wall⟩⟩,
    ⟨-15408, .fixed 0, some ⟨1920, 5, .on 1, 0, .wall⟩⟩,
    ⟨-14400, .fixed 0, some ⟨1930, 12, .on 1, 0, .wall⟩⟩,
    ⟨-14400, .rules Season.argentina, some ⟨1969, 10, .on 5, 0, .wall⟩⟩,
    ⟨-10800, .rules Season.argentina, some ⟨1991, 3, .on 1, 0, .wall⟩⟩,
    ⟨-14400, .fixed 0, some ⟨1991, 5, .on 7, 0, .wall⟩⟩,
    ⟨-10800, .rules Season.argentina, some ⟨1999, 10, .on 3, 0, .wall⟩⟩,
    ⟨-14400, .rules Season.argentina, some ⟨2000, 3, .on 3, 0, .wall⟩⟩,
    ⟨-10800, .fixed 0, some ⟨2004, 5, .on 31, 0, .wall⟩⟩,
    ⟨-14400, .fixed 0, some ⟨2004, 7, .on 25, 0, .wall⟩⟩,
    ⟨-10800, .rules Season.argentina, some ⟨2008, 10, .on 18, 0, .wall⟩⟩,
    ⟨-10800, .fixed 0, none⟩]

def argentinaSanLuis : List Era :=
  [ ⟨-15924, .fixed 0, some ⟨1894, 10, .on 31, 0, .wall⟩⟩,
    ⟨-15408, .fixed 0, some ⟨1920, 5, .on 1, 0, .wall⟩⟩,
    ⟨-14400, .fixed 0, some ⟨1930, 12, .on 1, 0, .wall⟩⟩,
    ⟨-14400, .rules Season.argentina, some ⟨1969, 10, .on 5, 0, .wall⟩⟩,
    ⟨-10800, .rules Season.argentina, some ⟨1990, 1, .on 1, 0, .wall⟩⟩,
    ⟨-10800, .fixed 3600, some ⟨1990, 3, .on 14, 0, .wall⟩⟩,
    ⟨-14400, .fixed 0, some ⟨1990, 10, .on 15, 0, .wall⟩⟩,
    ⟨-14400, .fixed 3600, some ⟨1991, 3, .on 1, 0, .wall⟩⟩,
    ⟨-14400, .fixed 0, some ⟨1991, 6, .on 1, 0, .wall⟩⟩,
    ⟨-10800, .fixed 0, some ⟨1999, 10, .on 3, 0, .wall⟩⟩,
    ⟨-14400, .fixed 3600, some ⟨2000, 3, .on 3, 0, .wall⟩⟩,
    ⟨-10800, .fixed 0, some ⟨2004, 5, .on 31, 0, .wall⟩⟩,
    ⟨-14400, .fixed 0, some ⟨2004, 7, .on 25, 0, .wall⟩⟩,
    ⟨-10800, .rules Season.argentina, some ⟨2008, 1, .on 21, 0, .wall⟩⟩,
    ⟨-14400, .rules Season.sanLuis, some ⟨2009, 10, .on 11, 0, .wall⟩⟩,
    ⟨-10800, .fixed 0, none⟩]

def argentinaTucuman : List Era :=
  [ ⟨-15652, .fixed 0, some ⟨1894, 10, .on 31, 0, .wall⟩⟩,
    ⟨-15408, .fixed 0, some ⟨1920, 5, .on 1, 0, .wall⟩⟩,
    ⟨-14400, .fixed 0, some ⟨1930, 12, .on 1, 0, .wall⟩⟩,
    ⟨-14400, .rules Season.argentina, some ⟨1969, 10, .on 5, 0, .wall⟩⟩,
    ⟨-10800, .rules Season.argentina, some ⟨1991, 3, .on 3, 0, .wall⟩⟩,
    ⟨-14400, .fixed 0, some ⟨1991, 10, .on 20, 0, .wall⟩⟩,
    ⟨-10800, .rules Season.argentina, some ⟨1999, 10, .on 3, 0, .wall⟩⟩,
    ⟨-14400, .rules Season.argentina, some ⟨2000, 3, .on 3, 0, .wall⟩⟩,
    ⟨-10800, .fixed 0, some ⟨2004, 6, .on 1, 0, .wall⟩⟩,
    ⟨-14400, .fixed 0, some ⟨2004, 6, .on 13, 0, .wall⟩⟩,
    ⟨-10800, .rules Season.argentina, none⟩]

def argentinaUshuaia : List Era :=
  [ ⟨-16392, .fixed 0, some ⟨1894, 10, .on 31, 0, .wall⟩⟩,
    ⟨-15408, .fixed 0, some ⟨1920, 5, .on 1, 0, .wall⟩⟩,
    ⟨-14400, .fixed 0, some ⟨1930, 12, .on 1, 0, .wall⟩⟩,
    ⟨-14400, .rules Season.argentina, some ⟨1969, 10, .on 5, 0, .wall⟩⟩,
    ⟨-10800, .rules Season.argentina, some ⟨1999, 10, .on 3, 0, .wall⟩⟩,
    ⟨-14400, .rules Season.argentina, some ⟨2000, 3, .on 3, 0, .wall⟩⟩,
    ⟨-10800, .fixed 0, some ⟨2004, 5, .on 30, 0, .wall⟩⟩,
    ⟨-14400, .fixed 0, some ⟨2004, 6, .on 20, 0, .wall⟩⟩,
    ⟨-10800, .rules Season.argentina, some ⟨2008, 10, .on 18, 0, .wall⟩⟩,
    ⟨-10800, .fixed 0, none⟩]

def asuncion : List Era :=
  [ ⟨-13840, .fixed 0, some ⟨1890, 1, .on 1, 0, .wall⟩⟩,
    ⟨-13840, .fixed 0, some ⟨1931, 10, .on 10, 0, .wall⟩⟩,
    ⟨-14400, .fixed 0, some ⟨1972, 10, .on 1, 0, .wall⟩⟩,
    ⟨-10800, .fixed 0, some ⟨1974, 4, .on 1, 0, .wall⟩⟩,
    ⟨-14400, .rules Season.paraguay, some ⟨2024, 10, .on 15, 0, .wall⟩⟩,
    ⟨-10800, .fixed 0, none⟩]

def bahia : List Era :=
  [ ⟨-9244, .fixed 0, some ⟨1914, 1, .on 1, 0, .wall⟩⟩,
    ⟨-10800, .rules Season.brazil, some ⟨2003, 9, .on 24, 0, .wall⟩⟩,
    ⟨-10800, .fixed 0, some ⟨2011, 10, .on 16, 0, .wall⟩⟩,
    ⟨-10800, .rules Season.brazil, some ⟨2012, 10, .on 21, 0, .wall⟩⟩,
    ⟨-10800, .fixed 0, none⟩]

def bahiaBanderas : List Era :=
  [ ⟨-25260, .fixed 0, some ⟨1922, 1, .on 1, 25200, .universal⟩⟩,
    ⟨-25200, .fixed 0, some ⟨1927, 6, .on 10, 0, .wall⟩⟩,
    ⟨-21600, .fixed 0, some ⟨1930, 11, .on 15, 0, .wall⟩⟩,
    ⟨-25200, .rules Season.mexico, some ⟨1932, 4, .on 1, 0, .wall⟩⟩,
    ⟨-21600, .fixed 0, some ⟨1942, 4, .on 24, 0, .wall⟩⟩,
    ⟨-25200, .fixed 0, some ⟨1970, 1, .on 1, 0, .wall⟩⟩,
    ⟨-25200, .rules Season.mexico, some ⟨2010, 4, .on 4, 7200, .wall⟩⟩,
    ⟨-21600, .rules Season.mexico, none⟩]

def barbados : List Era :=
  [ ⟨-14309, .fixed 0, some ⟨1911, 8, .on 28, 0, .wall⟩⟩,
    ⟨-14400, .rules Season.barbados, some ⟨1944, 1, .on 1, 0, .wall⟩⟩,
    ⟨-14400, .rules Season.barbados, some ⟨1945, 1, .on 1, 0, .wall⟩⟩,
    ⟨-14400, .rules Season.barbados, none⟩]

def belem : List Era :=
  [ ⟨-11636, .fixed 0, some ⟨1914, 1, .on 1, 0, .wall⟩⟩,
    ⟨-10800, .rules Season.brazil, some ⟨1988, 9, .on 12, 0, .wall⟩⟩,
    ⟨-10800, .fixed 0, none⟩]

def belize : List Era :=
  [ ⟨-21168, .fixed 0, some ⟨1912, 4, .on 1, 0, .wall⟩⟩,
    ⟨-21600, .rules Season.belize, none⟩]

def boaVista : List Era :=
  [ ⟨-14560, .fixed 0, some ⟨1914, 1, .on 1, 0, .wall⟩⟩,
    ⟨-14400, .rules Season.brazil, some ⟨1988, 9, .on 12, 0, .wall⟩⟩,
    ⟨-14400, .fixed 0, some ⟨1999, 9, .on 30, 0, .wall⟩⟩,
    ⟨-14400, .rules Season.brazil, some ⟨2000, 10, .on 15, 0, .wall⟩⟩,
    ⟨-14400, .fixed 0, none⟩]

def bogota : List Era :=
  [ ⟨-17776, .fixed 0, some ⟨1884, 3, .on 13, 0, .wall⟩⟩,
    ⟨-17776, .fixed 0, some ⟨1914, 11, .on 23, 0, .wall⟩⟩,
    ⟨-18000, .rules Season.colombia, none⟩]

def boise : List Era :=
  [ ⟨-27889, .fixed 0, some ⟨1883, 11, .on 18, 72000, .universal⟩⟩,
    ⟨-28800, .rules Season.unitedStates, some ⟨1923, 5, .on 13, 7200, .wall⟩⟩,
    ⟨-25200, .rules Season.unitedStates, some ⟨1974, 1, .on 1, 0, .wall⟩⟩,
    ⟨-25200, .fixed 0, some ⟨1974, 2, .on 3, 7200, .wall⟩⟩,
    ⟨-25200, .rules Season.unitedStates, none⟩]

def cambridgeBay : List Era :=
  [ ⟨0, .fixed 0, some ⟨1920, 1, .on 1, 0, .wall⟩⟩,
    ⟨-25200, .rules Season.northwestTerritories, some ⟨1999, 10, .on 31, 7200, .wall⟩⟩,
    ⟨-21600, .rules Season.canada, some ⟨2000, 10, .on 29, 7200, .wall⟩⟩,
    ⟨-18000, .fixed 0, some ⟨2000, 11, .on 5, 0, .wall⟩⟩,
    ⟨-21600, .fixed 0, some ⟨2001, 4, .on 1, 10800, .wall⟩⟩,
    ⟨-25200, .rules Season.canada, none⟩]

def campoGrande : List Era :=
  [ ⟨-13108, .fixed 0, some ⟨1914, 1, .on 1, 0, .wall⟩⟩,
    ⟨-14400, .rules Season.brazil, none⟩]

def cancun : List Era :=
  [ ⟨-20824, .fixed 0, some ⟨1922, 1, .on 1, 21600, .universal⟩⟩,
    ⟨-21600, .fixed 0, some ⟨1981, 12, .on 26, 7200, .wall⟩⟩,
    ⟨-18000, .fixed 0, some ⟨1983, 1, .on 4, 0, .wall⟩⟩,
    ⟨-21600, .rules Season.mexico, some ⟨1997, 10, .on 26, 7200, .wall⟩⟩,
    ⟨-18000, .rules Season.mexico, some ⟨1998, 8, .on 2, 7200, .wall⟩⟩,
    ⟨-21600, .rules Season.mexico, some ⟨2015, 2, .on 1, 7200, .wall⟩⟩,
    ⟨-18000, .fixed 0, none⟩]

def caracas : List Era :=
  [ ⟨-16064, .fixed 0, some ⟨1890, 1, .on 1, 0, .wall⟩⟩,
    ⟨-16060, .fixed 0, some ⟨1912, 2, .on 12, 0, .wall⟩⟩,
    ⟨-16200, .fixed 0, some ⟨1965, 1, .on 1, 0, .wall⟩⟩,
    ⟨-14400, .fixed 0, some ⟨2007, 12, .on 9, 10800, .wall⟩⟩,
    ⟨-16200, .fixed 0, some ⟨2016, 5, .on 1, 9000, .wall⟩⟩,
    ⟨-14400, .fixed 0, none⟩]

def cayenne : List Era :=
  [ ⟨-12560, .fixed 0, some ⟨1911, 7, .on 1, 0, .wall⟩⟩,
    ⟨-14400, .fixed 0, some ⟨1967, 10, .on 1, 0, .wall⟩⟩,
    ⟨-10800, .fixed 0, none⟩]

def chicago : List Era :=
  [ ⟨-21036, .fixed 0, some ⟨1883, 11, .on 18, 64800, .universal⟩⟩,
    ⟨-21600, .rules Season.unitedStates, some ⟨1920, 1, .on 1, 0, .wall⟩⟩,
    ⟨-21600, .rules Season.chicago, some ⟨1936, 3, .on 1, 7200, .wall⟩⟩,
    ⟨-18000, .fixed 0, some ⟨1936, 11, .on 15, 7200, .wall⟩⟩,
    ⟨-21600, .rules Season.chicago, some ⟨1942, 1, .on 1, 0, .wall⟩⟩,
    ⟨-21600, .rules Season.unitedStates, some ⟨1946, 1, .on 1, 0, .wall⟩⟩,
    ⟨-21600, .rules Season.chicago, some ⟨1967, 1, .on 1, 0, .wall⟩⟩,
    ⟨-21600, .rules Season.unitedStates, none⟩]

def chihuahua : List Era :=
  [ ⟨-25460, .fixed 0, some ⟨1922, 1, .on 1, 25200, .universal⟩⟩,
    ⟨-25200, .fixed 0, some ⟨1927, 6, .on 10, 0, .wall⟩⟩,
    ⟨-21600, .fixed 0, some ⟨1930, 11, .on 15, 0, .wall⟩⟩,
    ⟨-25200, .rules Season.mexico, some ⟨1932, 4, .on 1, 0, .wall⟩⟩,
    ⟨-21600, .fixed 0, some ⟨1996, 1, .on 1, 0, .wall⟩⟩,
    ⟨-21600, .rules Season.mexico, some ⟨1998, 1, .on 1, 0, .wall⟩⟩,
    ⟨-21600, .fixed 0, some ⟨1998, 4, .onOrAfter 0 1, 10800, .wall⟩⟩,
    ⟨-25200, .rules Season.mexico, some ⟨2022, 10, .on 30, 7200, .wall⟩⟩,
    ⟨-21600, .fixed 0, none⟩]

def ciudadJuarez : List Era :=
  [ ⟨-25556, .fixed 0, some ⟨1922, 1, .on 1, 25200, .universal⟩⟩,
    ⟨-25200, .fixed 0, some ⟨1927, 6, .on 10, 0, .wall⟩⟩,
    ⟨-21600, .fixed 0, some ⟨1930, 11, .on 15, 0, .wall⟩⟩,
    ⟨-25200, .rules Season.mexico, some ⟨1932, 4, .on 1, 0, .wall⟩⟩,
    ⟨-21600, .fixed 0, some ⟨1996, 1, .on 1, 0, .wall⟩⟩,
    ⟨-21600, .rules Season.mexico, some ⟨1998, 1, .on 1, 0, .wall⟩⟩,
    ⟨-21600, .fixed 0, some ⟨1998, 4, .onOrAfter 0 1, 10800, .wall⟩⟩,
    ⟨-25200, .rules Season.mexico, some ⟨2010, 1, .on 1, 0, .wall⟩⟩,
    ⟨-25200, .rules Season.unitedStates, some ⟨2022, 10, .on 30, 7200, .wall⟩⟩,
    ⟨-21600, .fixed 0, some ⟨2022, 11, .on 30, 0, .wall⟩⟩,
    ⟨-25200, .rules Season.unitedStates, none⟩]

def costaRica : List Era :=
  [ ⟨-20173, .fixed 0, some ⟨1890, 1, .on 1, 0, .wall⟩⟩,
    ⟨-20173, .fixed 0, some ⟨1921, 1, .on 15, 0, .wall⟩⟩,
    ⟨-21600, .rules Season.costaRica, none⟩]

def coyhaique : List Era :=
  [ ⟨-17296, .fixed 0, some ⟨1890, 1, .on 1, 0, .wall⟩⟩,
    ⟨-16965, .fixed 0, some ⟨1910, 1, .on 10, 0, .wall⟩⟩,
    ⟨-18000, .fixed 0, some ⟨1916, 7, .on 1, 0, .wall⟩⟩,
    ⟨-16965, .fixed 0, some ⟨1918, 9, .on 10, 0, .wall⟩⟩,
    ⟨-14400, .fixed 0, some ⟨1919, 7, .on 1, 0, .wall⟩⟩,
    ⟨-16965, .fixed 0, some ⟨1927, 9, .on 1, 0, .wall⟩⟩,
    ⟨-18000, .rules Season.chile, some ⟨1932, 9, .on 1, 0, .wall⟩⟩,
    ⟨-14400, .fixed 0, some ⟨1942, 6, .on 1, 0, .wall⟩⟩,
    ⟨-18000, .fixed 0, some ⟨1942, 8, .on 1, 0, .wall⟩⟩,
    ⟨-14400, .fixed 0, some ⟨1946, 8, .on 28, 86400, .wall⟩⟩,
    ⟨-18000, .fixed 3600, some ⟨1947, 3, .on 31, 86400, .wall⟩⟩,
    ⟨-18000, .fixed 0, some ⟨1947, 5, .on 21, 82800, .wall⟩⟩,
    ⟨-14400, .rules Season.chile, some ⟨2025, 3, .on 20, 0, .wall⟩⟩,
    ⟨-10800, .fixed 0, none⟩]

def cuiaba : List Era :=
  [ ⟨-13460, .fixed 0, some ⟨1914, 1, .on 1, 0, .wall⟩⟩,
    ⟨-14400, .rules Season.brazil, some ⟨2003, 9, .on 24, 0, .wall⟩⟩,
    ⟨-14400, .fixed 0, some ⟨2004, 10, .on 1, 0, .wall⟩⟩,
    ⟨-14400, .rules Season.brazil, none⟩]

def danmarkshavn : List Era :=
  [ ⟨-4480, .fixed 0, some ⟨1916, 7, .on 28, 0, .wall⟩⟩,
    ⟨-10800, .fixed 0, some ⟨1980, 4, .on 6, 7200, .wall⟩⟩,
    ⟨-10800, .rules Season.europeanUnion, some ⟨1996, 1, .on 1, 0, .wall⟩⟩,
    ⟨0, .fixed 0, none⟩]

def dawson : List Era :=
  [ ⟨-33460, .fixed 0, some ⟨1900, 8, .on 20, 0, .wall⟩⟩,
    ⟨-32400, .rules Season.northwestTerritories, some ⟨1965, 1, .on 1, 0, .wall⟩⟩,
    ⟨-32400, .rules Season.yukon, some ⟨1973, 10, .on 28, 0, .wall⟩⟩,
    ⟨-28800, .fixed 0, some ⟨1980, 1, .on 1, 0, .wall⟩⟩,
    ⟨-28800, .rules Season.canada, some ⟨2020, 11, .on 1, 0, .wall⟩⟩,
    ⟨-25200, .fixed 0, none⟩]

def dawsonCreek : List Era :=
  [ ⟨-28856, .fixed 0, some ⟨1884, 1, .on 1, 0, .wall⟩⟩,
    ⟨-28800, .rules Season.canada, some ⟨1947, 1, .on 1, 0, .wall⟩⟩,
    ⟨-28800, .rules Season.vancouver, some ⟨1972, 8, .on 30, 7200, .wall⟩⟩,
    ⟨-25200, .fixed 0, none⟩]

def denver : List Era :=
  [ ⟨-25196, .fixed 0, some ⟨1883, 11, .on 18, 68400, .universal⟩⟩,
    ⟨-25200, .rules Season.unitedStates, some ⟨1920, 1, .on 1, 0, .wall⟩⟩,
    ⟨-25200, .rules Season.denver, some ⟨1942, 1, .on 1, 0, .wall⟩⟩,
    ⟨-25200, .rules Season.unitedStates, some ⟨1946, 1, .on 1, 0, .wall⟩⟩,
    ⟨-25200, .rules Season.denver, some ⟨1967, 1, .on 1, 0, .wall⟩⟩,
    ⟨-25200, .rules Season.unitedStates, none⟩]

def detroit : List Era :=
  [ ⟨-19931, .fixed 0, some ⟨1905, 1, .on 1, 0, .wall⟩⟩,
    ⟨-21600, .fixed 0, some ⟨1915, 5, .on 15, 7200, .wall⟩⟩,
    ⟨-18000, .fixed 0, some ⟨1942, 1, .on 1, 0, .wall⟩⟩,
    ⟨-18000, .rules Season.unitedStates, some ⟨1946, 1, .on 1, 0, .wall⟩⟩,
    ⟨-18000, .rules Season.detroit, some ⟨1967, 6, .on 14, 60, .wall⟩⟩,
    ⟨-18000, .rules Season.unitedStates, some ⟨1969, 1, .on 1, 0, .wall⟩⟩,
    ⟨-18000, .fixed 0, some ⟨1973, 1, .on 1, 0, .wall⟩⟩,
    ⟨-18000, .rules Season.unitedStates, some ⟨1975, 1, .on 1, 0, .wall⟩⟩,
    ⟨-18000, .fixed 0, some ⟨1975, 4, .on 27, 7200, .wall⟩⟩,
    ⟨-18000, .rules Season.unitedStates, none⟩]

def edmonton : List Era :=
  [ ⟨-27232, .fixed 0, some ⟨1906, 9, .on 1, 0, .wall⟩⟩,
    ⟨-25200, .rules Season.edmonton, some ⟨1987, 1, .on 1, 0, .wall⟩⟩,
    ⟨-25200, .rules Season.canada, none⟩]

def eirunepe : List Era :=
  [ ⟨-16768, .fixed 0, some ⟨1914, 1, .on 1, 0, .wall⟩⟩,
    ⟨-18000, .rules Season.brazil, some ⟨1988, 9, .on 12, 0, .wall⟩⟩,
    ⟨-18000, .fixed 0, some ⟨1993, 9, .on 28, 0, .wall⟩⟩,
    ⟨-18000, .rules Season.brazil, some ⟨1994, 9, .on 22, 0, .wall⟩⟩,
    ⟨-18000, .fixed 0, some ⟨2008, 6, .on 24, 0, .wall⟩⟩,
    ⟨-14400, .fixed 0, some ⟨2013, 11, .on 10, 0, .wall⟩⟩,
    ⟨-18000, .fixed 0, none⟩]

def elSalvador : List Era :=
  [ ⟨-21408, .fixed 0, some ⟨1921, 1, .on 1, 0, .wall⟩⟩,
    ⟨-21600, .rules Season.elSalvador, none⟩]

def fortNelson : List Era :=
  [ ⟨-29447, .fixed 0, some ⟨1884, 1, .on 1, 0, .wall⟩⟩,
    ⟨-28800, .rules Season.vancouver, some ⟨1946, 1, .on 1, 0, .wall⟩⟩,
    ⟨-28800, .fixed 0, some ⟨1947, 1, .on 1, 0, .wall⟩⟩,
    ⟨-28800, .rules Season.vancouver, some ⟨1987, 1, .on 1, 0, .wall⟩⟩,
    ⟨-28800, .rules Season.canada, some ⟨2015, 3, .on 8, 7200, .wall⟩⟩,
    ⟨-25200, .fixed 0, none⟩]

def fortaleza : List Era :=
  [ ⟨-9240, .fixed 0, some ⟨1914, 1, .on 1, 0, .wall⟩⟩,
    ⟨-10800, .rules Season.brazil, some ⟨1990, 9, .on 17, 0, .wall⟩⟩,
    ⟨-10800, .fixed 0, some ⟨1999, 9, .on 30, 0, .wall⟩⟩,
    ⟨-10800, .rules Season.brazil, some ⟨2000, 10, .on 22, 0, .wall⟩⟩,
    ⟨-10800, .fixed 0, some ⟨2001, 9, .on 13, 0, .wall⟩⟩,
    ⟨-10800, .rules Season.brazil, some ⟨2002, 10, .on 1, 0, .wall⟩⟩,
    ⟨-10800, .fixed 0, none⟩]

def glaceBay : List Era :=
  [ ⟨-14388, .fixed 0, some ⟨1902, 6, .on 15, 0, .wall⟩⟩,
    ⟨-14400, .rules Season.canada, some ⟨1953, 1, .on 1, 0, .wall⟩⟩,
    ⟨-14400, .rules Season.halifax, some ⟨1954, 1, .on 1, 0, .wall⟩⟩,
    ⟨-14400, .fixed 0, some ⟨1972, 1, .on 1, 0, .wall⟩⟩,
    ⟨-14400, .rules Season.halifax, some ⟨1974, 1, .on 1, 0, .wall⟩⟩,
    ⟨-14400, .rules Season.canada, none⟩]

def gooseBay : List Era :=
  [ ⟨-14500, .fixed 0, some ⟨1884, 1, .on 1, 0, .wall⟩⟩,
    ⟨-12652, .fixed 0, some ⟨1918, 1, .on 1, 0, .wall⟩⟩,
    ⟨-12652, .rules Season.canada, some ⟨1919, 1, .on 1, 0, .wall⟩⟩,
    ⟨-12652, .fixed 0, some ⟨1935, 3, .on 30, 0, .wall⟩⟩,
    ⟨-12600, .fixed 0, some ⟨1936, 1, .on 1, 0, .wall⟩⟩,
    ⟨-12600, .rules Season.stJohns, some ⟨1942, 5, .on 11, 0, .wall⟩⟩,
    ⟨-12600, .rules Season.canada, some ⟨1946, 1, .on 1, 0, .wall⟩⟩,
    ⟨-12600, .rules Season.stJohns, some ⟨1966, 3, .on 15, 7200, .wall⟩⟩,
    ⟨-14400, .rules Season.stJohns, some ⟨2011, 11, .on 1, 0, .wall⟩⟩,
    ⟨-14400, .rules Season.canada, none⟩]

def grandTurk : List Era :=
  [ ⟨-17072, .fixed 0, some ⟨1890, 1, .on 1, 0, .wall⟩⟩,
    ⟨-18430, .fixed 0, some ⟨1912, 2, .on 1, 0, .wall⟩⟩,
    ⟨-18000, .fixed 0, some ⟨1979, 1, .on 1, 0, .wall⟩⟩,
    ⟨-18000, .rules Season.unitedStates, some ⟨2015, 3, .on 8, 7200, .wall⟩⟩,
    ⟨-14400, .fixed 0, some ⟨2018, 3, .on 11, 10800, .wall⟩⟩,
    ⟨-18000, .rules Season.unitedStates, none⟩]

def guatemala : List Era :=
  [ ⟨-21724, .fixed 0, some ⟨1918, 10, .on 5, 0, .wall⟩⟩,
    ⟨-21600, .rules Season.guatemala, none⟩]

def guayaquil : List Era :=
  [ ⟨-19160, .fixed 0, some ⟨1890, 1, .on 1, 0, .wall⟩⟩,
    ⟨-18840, .fixed 0, some ⟨1931, 1, .on 1, 0, .wall⟩⟩,
    ⟨-18000, .rules Season.ecuador, none⟩]

def guyana : List Era :=
  [ ⟨-13959, .fixed 0, some ⟨1911, 8, .on 1, 0, .wall⟩⟩,
    ⟨-14400, .fixed 0, some ⟨1915, 3, .on 1, 0, .wall⟩⟩,
    ⟨-13500, .fixed 0, some ⟨1975, 8, .on 1, 0, .wall⟩⟩,
    ⟨-10800, .fixed 0, some ⟨1992, 3, .on 29, 3600, .wall⟩⟩,
    ⟨-14400, .fixed 0, none⟩]

def halifax : List Era :=
  [ ⟨-15264, .fixed 0, some ⟨1902, 6, .on 15, 0, .wall⟩⟩,
    ⟨-14400, .rules Season.halifax, some ⟨1918, 1, .on 1, 0, .wall⟩⟩,
    ⟨-14400, .rules Season.canada, some ⟨1919, 1, .on 1, 0, .wall⟩⟩,
    ⟨-14400, .rules Season.halifax, some ⟨1942, 2, .on 9, 7200, .standard⟩⟩,
    ⟨-14400, .rules Season.canada, some ⟨1946, 1, .on 1, 0, .wall⟩⟩,
    ⟨-14400, .rules Season.halifax, some ⟨1974, 1, .on 1, 0, .wall⟩⟩,
    ⟨-14400, .rules Season.canada, none⟩]

def havana : List Era :=
  [ ⟨-19768, .fixed 0, some ⟨1890, 1, .on 1, 0, .wall⟩⟩,
    ⟨-19776, .fixed 0, some ⟨1925, 7, .on 19, 43200, .wall⟩⟩,
    ⟨-18000, .rules Season.cuba, none⟩]

def hermosillo : List Era :=
  [ ⟨-26632, .fixed 0, some ⟨1922, 1, .on 1, 25200, .universal⟩⟩,
    ⟨-25200, .fixed 0, some ⟨1927, 6, .on 10, 0, .wall⟩⟩,
    ⟨-21600, .fixed 0, some ⟨1930, 11, .on 15, 0, .wall⟩⟩,
    ⟨-25200, .rules Season.mexico, some ⟨1932, 4, .on 1, 0, .wall⟩⟩,
    ⟨-21600, .fixed 0, some ⟨1942, 4, .on 24, 0, .wall⟩⟩,
    ⟨-25200, .fixed 0, some ⟨1996, 1, .on 1, 0, .wall⟩⟩,
    ⟨-25200, .rules Season.mexico, some ⟨1999, 1, .on 1, 0, .wall⟩⟩,
    ⟨-25200, .fixed 0, none⟩]

def indianaIndianapolis : List Era :=
  [ ⟨-20678, .fixed 0, some ⟨1883, 11, .on 18, 64800, .universal⟩⟩,
    ⟨-21600, .rules Season.unitedStates, some ⟨1920, 1, .on 1, 0, .wall⟩⟩,
    ⟨-21600, .rules Season.indianapolis, some ⟨1942, 1, .on 1, 0, .wall⟩⟩,
    ⟨-21600, .rules Season.unitedStates, some ⟨1946, 1, .on 1, 0, .wall⟩⟩,
    ⟨-21600, .rules Season.indianapolis, some ⟨1955, 4, .on 24, 7200, .wall⟩⟩,
    ⟨-18000, .fixed 0, some ⟨1957, 9, .on 29, 7200, .wall⟩⟩,
    ⟨-21600, .fixed 0, some ⟨1958, 4, .on 27, 7200, .wall⟩⟩,
    ⟨-18000, .fixed 0, some ⟨1969, 1, .on 1, 0, .wall⟩⟩,
    ⟨-18000, .rules Season.unitedStates, some ⟨1971, 1, .on 1, 0, .wall⟩⟩,
    ⟨-18000, .fixed 0, some ⟨2006, 1, .on 1, 0, .wall⟩⟩,
    ⟨-18000, .rules Season.unitedStates, none⟩]

def indianaKnox : List Era :=
  [ ⟨-20790, .fixed 0, some ⟨1883, 11, .on 18, 64800, .universal⟩⟩,
    ⟨-21600, .rules Season.unitedStates, some ⟨1947, 1, .on 1, 0, .wall⟩⟩,
    ⟨-21600, .rules Season.starke, some ⟨1962, 4, .on 29, 7200, .wall⟩⟩,
    ⟨-18000, .fixed 0, some ⟨1963, 10, .on 27, 7200, .wall⟩⟩,
    ⟨-21600, .rules Season.unitedStates, some ⟨1991, 10, .on 27, 7200, .wall⟩⟩,
    ⟨-18000, .fixed 0, some ⟨2006, 4, .on 2, 7200, .wall⟩⟩,
    ⟨-21600, .rules Season.unitedStates, none⟩]

def indianaMarengo : List Era :=
  [ ⟨-20723, .fixed 0, some ⟨1883, 11, .on 18, 64800, .universal⟩⟩,
    ⟨-21600, .rules Season.unitedStates, some ⟨1951, 1, .on 1, 0, .wall⟩⟩,
    ⟨-21600, .rules Season.marengo, some ⟨1961, 4, .on 30, 7200, .wall⟩⟩,
    ⟨-18000, .fixed 0, some ⟨1969, 1, .on 1, 0, .wall⟩⟩,
    ⟨-18000, .rules Season.unitedStates, some ⟨1974, 1, .on 6, 7200, .wall⟩⟩,
    ⟨-21600, .fixed 3600, some ⟨1974, 10, .on 27, 7200, .wall⟩⟩,
    ⟨-18000, .rules Season.unitedStates, some ⟨1976, 1, .on 1, 0, .wall⟩⟩,
    ⟨-18000, .fixed 0, some ⟨2006, 1, .on 1, 0, .wall⟩⟩,
    ⟨-18000, .rules Season.unitedStates, none⟩]

def indianaPetersburg : List Era :=
  [ ⟨-20947, .fixed 0, some ⟨1883, 11, .on 18, 64800, .universal⟩⟩,
    ⟨-21600, .rules Season.unitedStates, some ⟨1955, 1, .on 1, 0, .wall⟩⟩,
    ⟨-21600, .rules Season.pike, some ⟨1965, 4, .on 25, 7200, .wall⟩⟩,
    ⟨-18000, .fixed 0, some ⟨1966, 10, .on 30, 7200, .wall⟩⟩,
    ⟨-21600, .rules Season.unitedStates, some ⟨1977, 10, .on 30, 7200, .wall⟩⟩,
    ⟨-18000, .fixed 0, some ⟨2006, 4, .on 2, 7200, .wall⟩⟩,
    ⟨-21600, .rules Season.unitedStates, some ⟨2007, 11, .on 4, 7200, .wall⟩⟩,
    ⟨-18000, .rules Season.unitedStates, none⟩]

def indianaTellCity : List Era :=
  [ ⟨-20823, .fixed 0, some ⟨1883, 11, .on 18, 64800, .universal⟩⟩,
    ⟨-21600, .rules Season.unitedStates, some ⟨1946, 1, .on 1, 0, .wall⟩⟩,
    ⟨-21600, .rules Season.perry, some ⟨1964, 4, .on 26, 7200, .wall⟩⟩,
    ⟨-18000, .fixed 0, some ⟨1967, 10, .on 29, 7200, .wall⟩⟩,
    ⟨-21600, .rules Season.unitedStates, some ⟨1969, 4, .on 27, 7200, .wall⟩⟩,
    ⟨-18000, .rules Season.unitedStates, some ⟨1971, 1, .on 1, 0, .wall⟩⟩,
    ⟨-18000, .fixed 0, some ⟨2006, 4, .on 2, 7200, .wall⟩⟩,
    ⟨-21600, .rules Season.unitedStates, none⟩]

def indianaVevay : List Era :=
  [ ⟨-20416, .fixed 0, some ⟨1883, 11, .on 18, 64800, .universal⟩⟩,
    ⟨-21600, .rules Season.unitedStates, some ⟨1954, 4, .on 25, 7200, .wall⟩⟩,
    ⟨-18000, .fixed 0, some ⟨1969, 1, .on 1, 0, .wall⟩⟩,
    ⟨-18000, .rules Season.unitedStates, some ⟨1973, 1, .on 1, 0, .wall⟩⟩,
    ⟨-18000, .fixed 0, some ⟨2006, 1, .on 1, 0, .wall⟩⟩,
    ⟨-18000, .rules Season.unitedStates, none⟩]

def indianaVincennes : List Era :=
  [ ⟨-21007, .fixed 0, some ⟨1883, 11, .on 18, 64800, .universal⟩⟩,
    ⟨-21600, .rules Season.unitedStates, some ⟨1946, 1, .on 1, 0, .wall⟩⟩,
    ⟨-21600, .rules Season.vincennes, some ⟨1964, 4, .on 26, 7200, .wall⟩⟩,
    ⟨-18000, .fixed 0, some ⟨1969, 1, .on 1, 0, .wall⟩⟩,
    ⟨-18000, .rules Season.unitedStates, some ⟨1971, 1, .on 1, 0, .wall⟩⟩,
    ⟨-18000, .fixed 0, some ⟨2006, 4, .on 2, 7200, .wall⟩⟩,
    ⟨-21600, .rules Season.unitedStates, some ⟨2007, 11, .on 4, 7200, .wall⟩⟩,
    ⟨-18000, .rules Season.unitedStates, none⟩]

def indianaWinamac : List Era :=
  [ ⟨-20785, .fixed 0, some ⟨1883, 11, .on 18, 64800, .universal⟩⟩,
    ⟨-21600, .rules Season.unitedStates, some ⟨1946, 1, .on 1, 0, .wall⟩⟩,
    ⟨-21600, .rules Season.pulaski, some ⟨1961, 4, .on 30, 7200, .wall⟩⟩,
    ⟨-18000, .fixed 0, some ⟨1969, 1, .on 1, 0, .wall⟩⟩,
    ⟨-18000, .rules Season.unitedStates, some ⟨1971, 1, .on 1, 0, .wall⟩⟩,
    ⟨-18000, .fixed 0, some ⟨2006, 4, .on 2, 7200, .wall⟩⟩,
    ⟨-21600, .rules Season.unitedStates, some ⟨2007, 3, .on 11, 7200, .wall⟩⟩,
    ⟨-18000, .rules Season.unitedStates, none⟩]

def inuvik : List Era :=
  [ ⟨0, .fixed 0, some ⟨1953, 1, .on 1, 0, .wall⟩⟩,
    ⟨-28800, .rules Season.northwestTerritories, some ⟨1979, 4, .last 0, 7200, .wall⟩⟩,
    ⟨-25200, .rules Season.northwestTerritories, some ⟨1980, 1, .on 1, 0, .wall⟩⟩,
    ⟨-25200, .rules Season.canada, none⟩]

def iqaluit : List Era :=
  [ ⟨0, .fixed 0, some ⟨1942, 8, .on 1, 0, .wall⟩⟩,
    ⟨-18000, .rules Season.northwestTerritories, some ⟨1999, 10, .on 31, 7200, .wall⟩⟩,
    ⟨-21600, .rules Season.canada, some ⟨2000, 10, .on 29, 7200, .wall⟩⟩,
    ⟨-18000, .rules Season.canada, none⟩]

def jamaica : List Era :=
  [ ⟨-18430, .fixed 0, some ⟨1890, 1, .on 1, 0, .wall⟩⟩,
    ⟨-18430, .fixed 0, some ⟨1912, 2, .on 1, 0, .wall⟩⟩,
    ⟨-18000, .fixed 0, some ⟨1974, 1, .on 1, 0, .wall⟩⟩,
    ⟨-18000, .rules Season.unitedStates, some ⟨1984, 1, .on 1, 0, .wall⟩⟩,
    ⟨-18000, .fixed 0, none⟩]

def juneau : List Era :=
  [ ⟨54139, .fixed 0, some ⟨1867, 10, .on 19, 56012, .wall⟩⟩,
    ⟨-32261, .fixed 0, some ⟨1900, 8, .on 20, 43200, .wall⟩⟩,
    ⟨-28800, .fixed 0, some ⟨1942, 1, .on 1, 0, .wall⟩⟩,
    ⟨-28800, .rules Season.unitedStates, some ⟨1946, 1, .on 1, 0, .wall⟩⟩,
    ⟨-28800, .fixed 0, some ⟨1969, 1, .on 1, 0, .wall⟩⟩,
    ⟨-28800, .rules Season.unitedStates, some ⟨1980, 4, .on 27, 7200, .wall⟩⟩,
    ⟨-32400, .rules Season.unitedStates, some ⟨1980, 10, .on 26, 7200, .wall⟩⟩,
    ⟨-28800, .rules Season.unitedStates, some ⟨1983, 10, .on 30, 7200, .wall⟩⟩,
    ⟨-32400, .rules Season.unitedStates, some ⟨1983, 11, .on 30, 0, .wall⟩⟩,
    ⟨-32400, .rules Season.unitedStates, none⟩]

def kentuckyLouisville : List Era :=
  [ ⟨-20582, .fixed 0, some ⟨1883, 11, .on 18, 64800, .universal⟩⟩,
    ⟨-21600, .rules Season.unitedStates, some ⟨1921, 1, .on 1, 0, .wall⟩⟩,
    ⟨-21600, .rules Season.louisville, some ⟨1942, 1, .on 1, 0, .wall⟩⟩,
    ⟨-21600, .rules Season.unitedStates, some ⟨1946, 1, .on 1, 0, .wall⟩⟩,
    ⟨-21600, .rules Season.louisville, some ⟨1961, 7, .on 23, 7200, .wall⟩⟩,
    ⟨-18000, .fixed 0, some ⟨1968, 1, .on 1, 0, .wall⟩⟩,
    ⟨-18000, .rules Season.unitedStates, some ⟨1974, 1, .on 6, 7200, .wall⟩⟩,
    ⟨-21600, .fixed 3600, some ⟨1974, 10, .on 27, 7200, .wall⟩⟩,
    ⟨-18000, .rules Season.unitedStates, none⟩]

def kentuckyMonticello : List Era :=
  [ ⟨-20364, .fixed 0, some ⟨1883, 11, .on 18, 64800, .universal⟩⟩,
    ⟨-21600, .rules Season.unitedStates, some ⟨1946, 1, .on 1, 0, .wall⟩⟩,
    ⟨-21600, .fixed 0, some ⟨1968, 1, .on 1, 0, .wall⟩⟩,
    ⟨-21600, .rules Season.unitedStates, some ⟨2000, 10, .on 29, 7200, .wall⟩⟩,
    ⟨-18000, .rules Season.unitedStates, none⟩]

def laPaz : List Era :=
  [ ⟨-16356, .fixed 0, some ⟨1890, 1, .on 1, 0, .wall⟩⟩,
    ⟨-16356, .fixed 0, some ⟨1931, 10, .on 15, 0, .wall⟩⟩,
    ⟨-16356, .fixed 3600, some ⟨1932, 3, .on 21, 0, .wall⟩⟩,
    ⟨-14400, .fixed 0, none⟩]

def lima : List Era :=
  [ ⟨-18492, .fixed 0, some ⟨1890, 1, .on 1, 0, .wall⟩⟩,
    ⟨-18516, .fixed 0, some ⟨1908, 7, .on 28, 0, .wall⟩⟩,
    ⟨-18000, .rules Season.peru, none⟩]

def losAngeles : List Era :=
  [ ⟨-28378, .fixed 0, some ⟨1883, 11, .on 18, 72000, .universal⟩⟩,
    ⟨-28800, .rules Season.unitedStates, some ⟨1946, 1, .on 1, 0, .wall⟩⟩,
    ⟨-28800, .rules Season.california, some ⟨1967, 1, .on 1, 0, .wall⟩⟩,
    ⟨-28800, .rules Season.unitedStates, none⟩]

def maceio : List Era :=
  [ ⟨-8572, .fixed 0, some ⟨1914, 1, .on 1, 0, .wall⟩⟩,
    ⟨-10800, .rules Season.brazil, some ⟨1990, 9, .on 17, 0, .wall⟩⟩,
    ⟨-10800, .fixed 0, some ⟨1995, 10, .on 13, 0, .wall⟩⟩,
    ⟨-10800, .rules Season.brazil, some ⟨1996, 9, .on 4, 0, .wall⟩⟩,
    ⟨-10800, .fixed 0, some ⟨1999, 9, .on 30, 0, .wall⟩⟩,
    ⟨-10800, .rules Season.brazil, some ⟨2000, 10, .on 22, 0, .wall⟩⟩,
    ⟨-10800, .fixed 0, some ⟨2001, 9, .on 13, 0, .wall⟩⟩,
    ⟨-10800, .rules Season.brazil, some ⟨2002, 10, .on 1, 0, .wall⟩⟩,
    ⟨-10800, .fixed 0, none⟩]

def managua : List Era :=
  [ ⟨-20708, .fixed 0, some ⟨1890, 1, .on 1, 0, .wall⟩⟩,
    ⟨-20712, .fixed 0, some ⟨1934, 6, .on 23, 0, .wall⟩⟩,
    ⟨-21600, .fixed 0, some ⟨1973, 5, .on 1, 0, .wall⟩⟩,
    ⟨-18000, .fixed 0, some ⟨1975, 2, .on 16, 0, .wall⟩⟩,
    ⟨-21600, .rules Season.nicaragua, some ⟨1992, 1, .on 1, 14400, .wall⟩⟩,
    ⟨-18000, .fixed 0, some ⟨1992, 9, .on 24, 0, .wall⟩⟩,
    ⟨-21600, .fixed 0, some ⟨1993, 1, .on 1, 0, .wall⟩⟩,
    ⟨-18000, .fixed 0, some ⟨1997, 1, .on 1, 0, .wall⟩⟩,
    ⟨-21600, .rules Season.nicaragua, none⟩]

def manaus : List Era :=
  [ ⟨-14404, .fixed 0, some ⟨1914, 1, .on 1, 0, .wall⟩⟩,
    ⟨-14400, .rules Season.brazil, some ⟨1988, 9, .on 12, 0, .wall⟩⟩,
    ⟨-14400, .fixed 0, some ⟨1993, 9, .on 28, 0, .wall⟩⟩,
    ⟨-14400, .rules Season.brazil, some ⟨1994, 9, .on 22, 0, .wall⟩⟩,
    ⟨-14400, .fixed 0, none⟩]

def martinique : List Era :=
  [ ⟨-14660, .fixed 0, some ⟨1890, 1, .on 1, 0, .wall⟩⟩,
    ⟨-14660, .fixed 0, some ⟨1911, 5, .on 1, 0, .wall⟩⟩,
    ⟨-14400, .fixed 0, some ⟨1980, 4, .on 6, 0, .wall⟩⟩,
    ⟨-14400, .fixed 3600, some ⟨1980, 9, .on 28, 0, .wall⟩⟩,
    ⟨-14400, .fixed 0, none⟩]

def matamoros : List Era :=
  [ ⟨-23400, .fixed 0, some ⟨1922, 1, .on 1, 21600, .universal⟩⟩,
    ⟨-21600, .fixed 0, some ⟨1988, 1, .on 1, 0, .wall⟩⟩,
    ⟨-21600, .rules Season.unitedStates, some ⟨1989, 1, .on 1, 0, .wall⟩⟩,
    ⟨-21600, .rules Season.mexico, some ⟨2010, 1, .on 1, 0, .wall⟩⟩,
    ⟨-21600, .rules Season.unitedStates, none⟩]

def mazatlan : List Era :=
  [ ⟨-25540, .fixed 0, some ⟨1922, 1, .on 1, 25200, .universal⟩⟩,
    ⟨-25200, .fixed 0, some ⟨1927, 6, .on 10, 0, .wall⟩⟩,
    ⟨-21600, .fixed 0, some ⟨1930, 11, .on 15, 0, .wall⟩⟩,
    ⟨-25200, .rules Season.mexico, some ⟨1932, 4, .on 1, 0, .wall⟩⟩,
    ⟨-21600, .fixed 0, some ⟨1942, 4, .on 24, 0, .wall⟩⟩,
    ⟨-25200, .fixed 0, some ⟨1970, 1, .on 1, 0, .wall⟩⟩,
    ⟨-25200, .rules Season.mexico, none⟩]

def menominee : List Era :=
  [ ⟨-21027, .fixed 0, some ⟨1885, 9, .on 18, 43200, .wall⟩⟩,
    ⟨-21600, .rules Season.unitedStates, some ⟨1946, 1, .on 1, 0, .wall⟩⟩,
    ⟨-21600, .rules Season.menominee, some ⟨1969, 4, .on 27, 7200, .wall⟩⟩,
    ⟨-18000, .fixed 0, some ⟨1973, 4, .on 29, 7200, .wall⟩⟩,
    ⟨-21600, .rules Season.unitedStates, none⟩]

def merida : List Era :=
  [ ⟨-21508, .fixed 0, some ⟨1922, 1, .on 1, 21600, .universal⟩⟩,
    ⟨-21600, .fixed 0, some ⟨1981, 12, .on 26, 7200, .wall⟩⟩,
    ⟨-18000, .fixed 0, some ⟨1982, 11, .on 2, 7200, .wall⟩⟩,
    ⟨-21600, .rules Season.mexico, none⟩]

def metlakatla : List Era :=
  [ ⟨54822, .fixed 0, some ⟨1867, 10, .on 19, 56695, .wall⟩⟩,
    ⟨-31578, .fixed 0, some ⟨1900, 8, .on 20, 43200, .wall⟩⟩,
    ⟨-28800, .fixed 0, some ⟨1942, 1, .on 1, 0, .wall⟩⟩,
    ⟨-28800, .rules Season.unitedStates, some ⟨1946, 1, .on 1, 0, .wall⟩⟩,
    ⟨-28800, .fixed 0, some ⟨1969, 1, .on 1, 0, .wall⟩⟩,
    ⟨-28800, .rules Season.unitedStates, some ⟨1983, 10, .on 30, 7200, .wall⟩⟩,
    ⟨-28800, .fixed 0, some ⟨2015, 11, .on 1, 7200, .wall⟩⟩,
    ⟨-32400, .rules Season.unitedStates, some ⟨2018, 11, .on 4, 7200, .wall⟩⟩,
    ⟨-28800, .fixed 0, some ⟨2019, 1, .on 20, 7200, .wall⟩⟩,
    ⟨-32400, .rules Season.unitedStates, none⟩]

def mexicoCity : List Era :=
  [ ⟨-23796, .fixed 0, some ⟨1922, 1, .on 1, 25200, .universal⟩⟩,
    ⟨-25200, .fixed 0, some ⟨1927, 6, .on 10, 0, .wall⟩⟩,
    ⟨-21600, .fixed 0, some ⟨1930, 11, .on 15, 0, .wall⟩⟩,
    ⟨-25200, .rules Season.mexico, some ⟨1932, 4, .on 1, 0, .wall⟩⟩,
    ⟨-21600, .rules Season.mexico, some ⟨2001, 9, .on 30, 7200, .wall⟩⟩,
    ⟨-21600, .fixed 0, some ⟨2002, 2, .on 20, 0, .wall⟩⟩,
    ⟨-21600, .rules Season.mexico, none⟩]

def miquelon : List Era :=
  [ ⟨-13480, .fixed 0, some ⟨1911, 6, .on 15, 0, .wall⟩⟩,
    ⟨-14400, .fixed 0, some ⟨1980, 5, .on 1, 0, .wall⟩⟩,
    ⟨-10800, .fixed 0, some ⟨1987, 1, .on 1, 0, .wall⟩⟩,
    ⟨-10800, .rules Season.canada, none⟩]

def moncton : List Era :=
  [ ⟨-15548, .fixed 0, some ⟨1883, 12, .on 9, 0, .wall⟩⟩,
    ⟨-18000, .fixed 0, some ⟨1902, 6, .on 15, 0, .wall⟩⟩,
    ⟨-14400, .rules Season.canada, some ⟨1933, 1, .on 1, 0, .wall⟩⟩,
    ⟨-14400, .rules Season.moncton, some ⟨1942, 1, .on 1, 0, .wall⟩⟩,
    ⟨-14400, .rules Season.canada, some ⟨1946, 1, .on 1, 0, .wall⟩⟩,
    ⟨-14400, .rules Season.moncton, some ⟨1973, 1, .on 1, 0, .wall⟩⟩,
    ⟨-14400, .rules Season.canada, some ⟨1993, 1, .on 1, 0, .wall⟩⟩,
    ⟨-14400, .rules Season.moncton, some ⟨2007, 1, .on 1, 0, .wall⟩⟩,
    ⟨-14400, .rules Season.canada, none⟩]

def monterrey : List Era :=
  [ ⟨-24076, .fixed 0, some ⟨1922, 1, .on 1, 21600, .universal⟩⟩,
    ⟨-25200, .fixed 0, some ⟨1927, 6, .on 10, 0, .wall⟩⟩,
    ⟨-21600, .fixed 0, some ⟨1930, 11, .on 15, 0, .wall⟩⟩,
    ⟨-25200, .rules Season.mexico, some ⟨1932, 4, .on 1, 0, .wall⟩⟩,
    ⟨-21600, .fixed 0, some ⟨1988, 1, .on 1, 0, .wall⟩⟩,
    ⟨-21600, .rules Season.unitedStates, some ⟨1989, 1, .on 1, 0, .wall⟩⟩,
    ⟨-21600, .rules Season.mexico, none⟩]

def montevideo : List Era :=
  [ ⟨-13491, .fixed 0, some ⟨1908, 6, .on 10, 0, .wall⟩⟩,
    ⟨-13491, .fixed 0, some ⟨1920, 5, .on 1, 0, .wall⟩⟩,
    ⟨-14400, .fixed 0, some ⟨1923, 10, .on 1, 0, .wall⟩⟩,
    ⟨-12600, .rules Season.uruguay, some ⟨1942, 12, .on 14, 0, .wall⟩⟩,
    ⟨-10800, .rules Season.uruguay, some ⟨1960, 1, .on 1, 0, .wall⟩⟩,
    ⟨-10800, .rules Season.uruguay, some ⟨1968, 1, .on 1, 0, .wall⟩⟩,
    ⟨-10800, .rules Season.uruguay, some ⟨1970, 1, .on 1, 0, .wall⟩⟩,
    ⟨-10800, .rules Season.uruguay, some ⟨1974, 1, .on 1, 0, .wall⟩⟩,
    ⟨-10800, .rules Season.uruguay, some ⟨1974, 3, .on 10, 0, .wall⟩⟩,
    ⟨-10800, .rules Season.uruguay, some ⟨1974, 12, .on 22, 0, .wall⟩⟩,
    ⟨-10800, .rules Season.uruguay, none⟩]

def newYork : List Era :=
  [ ⟨-17762, .fixed 0, some ⟨1883, 11, .on 18, 61200, .universal⟩⟩,
    ⟨-18000, .rules Season.unitedStates, some ⟨1920, 1, .on 1, 0, .wall⟩⟩,
    ⟨-18000, .rules Season.newYork, some ⟨1942, 1, .on 1, 0, .wall⟩⟩,
    ⟨-18000, .rules Season.unitedStates, some ⟨1946, 1, .on 1, 0, .wall⟩⟩,
    ⟨-18000, .rules Season.newYork, some ⟨1967, 1, .on 1, 0, .wall⟩⟩,
    ⟨-18000, .rules Season.unitedStates, none⟩]

def nome : List Era :=
  [ ⟨46702, .fixed 0, some ⟨1867, 10, .on 19, 48575, .wall⟩⟩,
    ⟨-39698, .fixed 0, some ⟨1900, 8, .on 20, 43200, .wall⟩⟩,
    ⟨-39600, .fixed 0, some ⟨1942, 1, .on 1, 0, .wall⟩⟩,
    ⟨-39600, .rules Season.unitedStates, some ⟨1946, 1, .on 1, 0, .wall⟩⟩,
    ⟨-39600, .fixed 0, some ⟨1967, 4, .on 1, 0, .wall⟩⟩,
    ⟨-39600, .fixed 0, some ⟨1969, 1, .on 1, 0, .wall⟩⟩,
    ⟨-39600, .rules Season.unitedStates, some ⟨1983, 10, .on 30, 7200, .wall⟩⟩,
    ⟨-32400, .rules Season.unitedStates, some ⟨1983, 11, .on 30, 0, .wall⟩⟩,
    ⟨-32400, .rules Season.unitedStates, none⟩]

def noronha : List Era :=
  [ ⟨-7780, .fixed 0, some ⟨1914, 1, .on 1, 0, .wall⟩⟩,
    ⟨-7200, .rules Season.brazil, some ⟨1990, 9, .on 17, 0, .wall⟩⟩,
    ⟨-7200, .fixed 0, some ⟨1999, 9, .on 30, 0, .wall⟩⟩,
    ⟨-7200, .rules Season.brazil, some ⟨2000, 10, .on 15, 0, .wall⟩⟩,
    ⟨-7200, .fixed 0, some ⟨2001, 9, .on 13, 0, .wall⟩⟩,
    ⟨-7200, .rules Season.brazil, some ⟨2002, 10, .on 1, 0, .wall⟩⟩,
    ⟨-7200, .fixed 0, none⟩]

def northDakotaBeulah : List Era :=
  [ ⟨-24427, .fixed 0, some ⟨1883, 11, .on 18, 68400, .universal⟩⟩,
    ⟨-25200, .rules Season.unitedStates, some ⟨2010, 11, .on 7, 7200, .wall⟩⟩,
    ⟨-21600, .rules Season.unitedStates, none⟩]

def northDakotaCenter : List Era :=
  [ ⟨-24312, .fixed 0, some ⟨1883, 11, .on 18, 68400, .universal⟩⟩,
    ⟨-25200, .rules Season.unitedStates, some ⟨1992, 10, .on 25, 7200, .wall⟩⟩,
    ⟨-21600, .rules Season.unitedStates, none⟩]

def northDakotaNewSalem : List Era :=
  [ ⟨-24339, .fixed 0, some ⟨1883, 11, .on 18, 68400, .universal⟩⟩,
    ⟨-25200, .rules Season.unitedStates, some ⟨2003, 10, .on 26, 7200, .wall⟩⟩,
    ⟨-21600, .rules Season.unitedStates, none⟩]

def nuuk : List Era :=
  [ ⟨-12416, .fixed 0, some ⟨1916, 7, .on 28, 0, .wall⟩⟩,
    ⟨-10800, .fixed 0, some ⟨1980, 4, .on 6, 7200, .wall⟩⟩,
    ⟨-10800, .rules Season.europeanUnion, some ⟨2023, 3, .on 26, 3600, .universal⟩⟩,
    ⟨-7200, .fixed 0, some ⟨2023, 10, .on 29, 3600, .universal⟩⟩,
    ⟨-7200, .rules Season.europeanUnion, none⟩]

def ojinaga : List Era :=
  [ ⟨-25060, .fixed 0, some ⟨1922, 1, .on 1, 25200, .universal⟩⟩,
    ⟨-25200, .fixed 0, some ⟨1927, 6, .on 10, 0, .wall⟩⟩,
    ⟨-21600, .fixed 0, some ⟨1930, 11, .on 15, 0, .wall⟩⟩,
    ⟨-25200, .rules Season.mexico, some ⟨1932, 4, .on 1, 0, .wall⟩⟩,
    ⟨-21600, .fixed 0, some ⟨1996, 1, .on 1, 0, .wall⟩⟩,
    ⟨-21600, .rules Season.mexico, some ⟨1998, 1, .on 1, 0, .wall⟩⟩,
    ⟨-21600, .fixed 0, some ⟨1998, 4, .onOrAfter 0 1, 10800, .wall⟩⟩,
    ⟨-25200, .rules Season.mexico, some ⟨2010, 1, .on 1, 0, .wall⟩⟩,
    ⟨-25200, .rules Season.unitedStates, some ⟨2022, 10, .on 30, 7200, .wall⟩⟩,
    ⟨-21600, .fixed 0, some ⟨2022, 11, .on 30, 0, .wall⟩⟩,
    ⟨-21600, .rules Season.unitedStates, none⟩]

def panama : List Era :=
  [ ⟨-19088, .fixed 0, some ⟨1890, 1, .on 1, 0, .wall⟩⟩,
    ⟨-19176, .fixed 0, some ⟨1908, 4, .on 22, 0, .wall⟩⟩,
    ⟨-18000, .fixed 0, none⟩]

def paramaribo : List Era :=
  [ ⟨-13240, .fixed 0, some ⟨1911, 1, .on 1, 0, .wall⟩⟩,
    ⟨-13252, .fixed 0, some ⟨1935, 1, .on 1, 0, .wall⟩⟩,
    ⟨-13236, .fixed 0, some ⟨1945, 10, .on 1, 0, .wall⟩⟩,
    ⟨-12600, .fixed 0, some ⟨1984, 10, .on 1, 0, .wall⟩⟩,
    ⟨-10800, .fixed 0, none⟩]

def phoenix : List Era :=
  [ ⟨-26898, .fixed 0, some ⟨1883, 11, .on 18, 68400, .universal⟩⟩,
    ⟨-25200, .rules Season.unitedStates, some ⟨1944, 1, .on 1, 60, .wall⟩⟩,
    ⟨-25200, .fixed 0, some ⟨1944, 4, .on 1, 60, .wall⟩⟩,
    ⟨-25200, .rules Season.unitedStates, some ⟨1944, 10, .on 1, 60, .wall⟩⟩,
    ⟨-25200, .fixed 0, some ⟨1967, 1, .on 1, 0, .wall⟩⟩,
    ⟨-25200, .rules Season.unitedStates, some ⟨1968, 3, .on 21, 0, .wall⟩⟩,
    ⟨-25200, .fixed 0, none⟩]

def portAuPrince : List Era :=
  [ ⟨-17360, .fixed 0, some ⟨1890, 1, .on 1, 0, .wall⟩⟩,
    ⟨-17340, .fixed 0, some ⟨1917, 1, .on 24, 43200, .wall⟩⟩,
    ⟨-18000, .rules Season.haiti, none⟩]

def portoVelho : List Era :=
  [ ⟨-15336, .fixed 0, some ⟨1914, 1, .on 1, 0, .wall⟩⟩,
    ⟨-14400, .rules Season.brazil, some ⟨1988, 9, .on 12, 0, .wall⟩⟩,
    ⟨-14400, .fixed 0, none⟩]

def puertoRico : List Era :=
  [ ⟨-15865, .fixed 0, some ⟨1899, 3, .on 28, 43200, .wall⟩⟩,
    ⟨-14400, .fixed 0, some ⟨1942, 5, .on 3, 0, .wall⟩⟩,
    ⟨-14400, .rules Season.unitedStates, some ⟨1946, 1, .on 1, 0, .wall⟩⟩,
    ⟨-14400, .fixed 0, none⟩]

def puntaArenas : List Era :=
  [ ⟨-17020, .fixed 0, some ⟨1890, 1, .on 1, 0, .wall⟩⟩,
    ⟨-16965, .fixed 0, some ⟨1910, 1, .on 10, 0, .wall⟩⟩,
    ⟨-18000, .fixed 0, some ⟨1916, 7, .on 1, 0, .wall⟩⟩,
    ⟨-16965, .fixed 0, some ⟨1918, 9, .on 10, 0, .wall⟩⟩,
    ⟨-14400, .fixed 0, some ⟨1919, 7, .on 1, 0, .wall⟩⟩,
    ⟨-16965, .fixed 0, some ⟨1927, 9, .on 1, 0, .wall⟩⟩,
    ⟨-18000, .rules Season.chile, some ⟨1932, 9, .on 1, 0, .wall⟩⟩,
    ⟨-14400, .fixed 0, some ⟨1942, 6, .on 1, 0, .wall⟩⟩,
    ⟨-18000, .fixed 0, some ⟨1942, 8, .on 1, 0, .wall⟩⟩,
    ⟨-14400, .fixed 0, some ⟨1946, 8, .on 28, 86400, .wall⟩⟩,
    ⟨-18000, .fixed 3600, some ⟨1947, 3, .on 31, 86400, .wall⟩⟩,
    ⟨-18000, .fixed 0, some ⟨1947, 5, .on 21, 82800, .wall⟩⟩,
    ⟨-14400, .rules Season.chile, some ⟨2016, 12, .on 4, 0, .wall⟩⟩,
    ⟨-10800, .fixed 0, none⟩]

def rankinInlet : List Era :=
  [ ⟨0, .fixed 0, some ⟨1957, 1, .on 1, 0, .wall⟩⟩,
    ⟨-21600, .rules Season.northwestTerritories, some ⟨2000, 10, .on 29, 7200, .wall⟩⟩,
    ⟨-18000, .fixed 0, some ⟨2001, 4, .on 1, 10800, .wall⟩⟩,
    ⟨-21600, .rules Season.canada, none⟩]

def recife : List Era :=
  [ ⟨-8376, .fixed 0, some ⟨1914, 1, .on 1, 0, .wall⟩⟩,
    ⟨-10800, .rules Season.brazil, some ⟨1990, 9, .on 17, 0, .wall⟩⟩,
    ⟨-10800, .fixed 0, some ⟨1999, 9, .on 30, 0, .wall⟩⟩,
    ⟨-10800, .rules Season.brazil, some ⟨2000, 10, .on 15, 0, .wall⟩⟩,
    ⟨-10800, .fixed 0, some ⟨2001, 9, .on 13, 0, .wall⟩⟩,
    ⟨-10800, .rules Season.brazil, some ⟨2002, 10, .on 1, 0, .wall⟩⟩,
    ⟨-10800, .fixed 0, none⟩]

def regina : List Era :=
  [ ⟨-25116, .fixed 0, some ⟨1905, 9, .on 1, 0, .wall⟩⟩,
    ⟨-25200, .rules Season.regina, some ⟨1960, 4, .last 0, 7200, .wall⟩⟩,
    ⟨-21600, .fixed 0, none⟩]

def resolute : List Era :=
  [ ⟨0, .fixed 0, some ⟨1947, 8, .on 31, 0, .wall⟩⟩,
    ⟨-21600, .rules Season.northwestTerritories, some ⟨2000, 10, .on 29, 7200, .wall⟩⟩,
    ⟨-18000, .fixed 0, some ⟨2001, 4, .on 1, 10800, .wall⟩⟩,
    ⟨-21600, .rules Season.canada, some ⟨2006, 10, .on 29, 7200, .wall⟩⟩,
    ⟨-18000, .fixed 0, some ⟨2007, 3, .on 11, 10800, .wall⟩⟩,
    ⟨-21600, .rules Season.canada, none⟩]

def rioBranco : List Era :=
  [ ⟨-16272, .fixed 0, some ⟨1914, 1, .on 1, 0, .wall⟩⟩,
    ⟨-18000, .rules Season.brazil, some ⟨1988, 9, .on 12, 0, .wall⟩⟩,
    ⟨-18000, .fixed 0, some ⟨2008, 6, .on 24, 0, .wall⟩⟩,
    ⟨-14400, .fixed 0, some ⟨2013, 11, .on 10, 0, .wall⟩⟩,
    ⟨-18000, .fixed 0, none⟩]

def santarem : List Era :=
  [ ⟨-13128, .fixed 0, some ⟨1914, 1, .on 1, 0, .wall⟩⟩,
    ⟨-14400, .rules Season.brazil, some ⟨1988, 9, .on 12, 0, .wall⟩⟩,
    ⟨-14400, .fixed 0, some ⟨2008, 6, .on 24, 0, .wall⟩⟩,
    ⟨-10800, .fixed 0, none⟩]

def santiago : List Era :=
  [ ⟨-16965, .fixed 0, some ⟨1890, 1, .on 1, 0, .wall⟩⟩,
    ⟨-16965, .fixed 0, some ⟨1910, 1, .on 10, 0, .wall⟩⟩,
    ⟨-18000, .fixed 0, some ⟨1916, 7, .on 1, 0, .wall⟩⟩,
    ⟨-16965, .fixed 0, some ⟨1918, 9, .on 10, 0, .wall⟩⟩,
    ⟨-14400, .fixed 0, some ⟨1919, 7, .on 1, 0, .wall⟩⟩,
    ⟨-16965, .fixed 0, some ⟨1927, 9, .on 1, 0, .wall⟩⟩,
    ⟨-18000, .rules Season.chile, some ⟨1932, 9, .on 1, 0, .wall⟩⟩,
    ⟨-14400, .fixed 0, some ⟨1942, 6, .on 1, 0, .wall⟩⟩,
    ⟨-18000, .fixed 0, some ⟨1942, 8, .on 1, 0, .wall⟩⟩,
    ⟨-14400, .fixed 0, some ⟨1946, 7, .on 14, 86400, .wall⟩⟩,
    ⟨-14400, .fixed 3600, some ⟨1946, 8, .on 28, 86400, .wall⟩⟩,
    ⟨-18000, .fixed 3600, some ⟨1947, 3, .on 31, 86400, .wall⟩⟩,
    ⟨-18000, .fixed 0, some ⟨1947, 5, .on 21, 82800, .wall⟩⟩,
    ⟨-14400, .rules Season.chile, none⟩]

def santoDomingo : List Era :=
  [ ⟨-16776, .fixed 0, some ⟨1890, 1, .on 1, 0, .wall⟩⟩,
    ⟨-16800, .fixed 0, some ⟨1933, 4, .on 1, 43200, .wall⟩⟩,
    ⟨-18000, .rules Season.dominicanRepublic, some ⟨1974, 10, .on 27, 0, .wall⟩⟩,
    ⟨-14400, .fixed 0, some ⟨2000, 10, .on 29, 7200, .wall⟩⟩,
    ⟨-18000, .rules Season.unitedStates, some ⟨2000, 12, .on 3, 3600, .wall⟩⟩,
    ⟨-14400, .fixed 0, none⟩]

def saoPaulo : List Era :=
  [ ⟨-11188, .fixed 0, some ⟨1914, 1, .on 1, 0, .wall⟩⟩,
    ⟨-10800, .rules Season.brazil, some ⟨1963, 10, .on 23, 0, .wall⟩⟩,
    ⟨-10800, .fixed 3600, some ⟨1964, 1, .on 1, 0, .wall⟩⟩,
    ⟨-10800, .rules Season.brazil, none⟩]

def scoresbysund : List Era :=
  [ ⟨-5272, .fixed 0, some ⟨1916, 7, .on 28, 0, .wall⟩⟩,
    ⟨-7200, .fixed 0, some ⟨1980, 4, .on 6, 7200, .wall⟩⟩,
    ⟨-7200, .rules Season.centralEurope, some ⟨1981, 3, .on 29, 0, .wall⟩⟩,
    ⟨-3600, .rules Season.europeanUnion, some ⟨2024, 3, .on 31, 0, .wall⟩⟩,
    ⟨-7200, .rules Season.europeanUnion, none⟩]

def sitka : List Era :=
  [ ⟨53927, .fixed 0, some ⟨1867, 10, .on 19, 55800, .wall⟩⟩,
    ⟨-32473, .fixed 0, some ⟨1900, 8, .on 20, 43200, .wall⟩⟩,
    ⟨-28800, .fixed 0, some ⟨1942, 1, .on 1, 0, .wall⟩⟩,
    ⟨-28800, .rules Season.unitedStates, some ⟨1946, 1, .on 1, 0, .wall⟩⟩,
    ⟨-28800, .fixed 0, some ⟨1969, 1, .on 1, 0, .wall⟩⟩,
    ⟨-28800, .rules Season.unitedStates, some ⟨1983, 10, .on 30, 7200, .wall⟩⟩,
    ⟨-32400, .rules Season.unitedStates, some ⟨1983, 11, .on 30, 0, .wall⟩⟩,
    ⟨-32400, .rules Season.unitedStates, none⟩]

def stJohns : List Era :=
  [ ⟨-12652, .fixed 0, some ⟨1884, 1, .on 1, 0, .wall⟩⟩,
    ⟨-12652, .rules Season.stJohns, some ⟨1918, 1, .on 1, 0, .wall⟩⟩,
    ⟨-12652, .rules Season.canada, some ⟨1919, 1, .on 1, 0, .wall⟩⟩,
    ⟨-12652, .rules Season.stJohns, some ⟨1935, 3, .on 30, 0, .wall⟩⟩,
    ⟨-12600, .rules Season.stJohns, some ⟨1942, 5, .on 11, 0, .wall⟩⟩,
    ⟨-12600, .rules Season.canada, some ⟨1946, 1, .on 1, 0, .wall⟩⟩,
    ⟨-12600, .rules Season.stJohns, some ⟨2011, 11, .on 1, 0, .wall⟩⟩,
    ⟨-12600, .rules Season.canada, none⟩]

def swiftCurrent : List Era :=
  [ ⟨-25880, .fixed 0, some ⟨1905, 9, .on 1, 0, .wall⟩⟩,
    ⟨-25200, .rules Season.canada, some ⟨1946, 4, .last 0, 7200, .wall⟩⟩,
    ⟨-25200, .rules Season.regina, some ⟨1950, 1, .on 1, 0, .wall⟩⟩,
    ⟨-25200, .rules Season.swiftCurrent, some ⟨1972, 4, .last 0, 7200, .wall⟩⟩,
    ⟨-21600, .fixed 0, none⟩]

def tegucigalpa : List Era :=
  [ ⟨-20932, .fixed 0, some ⟨1921, 4, .on 1, 0, .wall⟩⟩,
    ⟨-21600, .rules Season.honduras, none⟩]

def thule : List Era :=
  [ ⟨-16508, .fixed 0, some ⟨1916, 7, .on 28, 0, .wall⟩⟩,
    ⟨-14400, .rules Season.thule, none⟩]

def tijuana : List Era :=
  [ ⟨-28084, .fixed 0, some ⟨1922, 1, .on 1, 25200, .universal⟩⟩,
    ⟨-25200, .fixed 0, some ⟨1924, 1, .on 1, 0, .wall⟩⟩,
    ⟨-28800, .fixed 0, some ⟨1927, 1, .on 1, 0, .wall⟩⟩,
    ⟨-25200, .fixed 0, some ⟨1930, 11, .on 15, 0, .wall⟩⟩,
    ⟨-28800, .fixed 0, some ⟨1931, 4, .on 1, 0, .wall⟩⟩,
    ⟨-28800, .fixed 3600, some ⟨1931, 9, .on 30, 0, .wall⟩⟩,
    ⟨-28800, .fixed 0, some ⟨1942, 4, .on 24, 0, .wall⟩⟩,
    ⟨-28800, .fixed 3600, some ⟨1945, 8, .on 14, 82800, .universal⟩⟩,
    ⟨-28800, .fixed 3600, some ⟨1945, 11, .on 15, 0, .wall⟩⟩,
    ⟨-28800, .fixed 0, some ⟨1948, 4, .on 5, 0, .wall⟩⟩,
    ⟨-28800, .fixed 3600, some ⟨1949, 1, .on 14, 0, .wall⟩⟩,
    ⟨-28800, .fixed 0, some ⟨1950, 5, .on 1, 0, .wall⟩⟩,
    ⟨-28800, .fixed 3600, some ⟨1950, 9, .on 24, 0, .wall⟩⟩,
    ⟨-28800, .fixed 0, some ⟨1951, 4, .on 29, 7200, .wall⟩⟩,
    ⟨-28800, .fixed 3600, some ⟨1951, 9, .on 30, 7200, .wall⟩⟩,
    ⟨-28800, .fixed 0, some ⟨1952, 4, .on 27, 7200, .wall⟩⟩,
    ⟨-28800, .fixed 3600, some ⟨1952, 9, .on 28, 7200, .wall⟩⟩,
    ⟨-28800, .fixed 0, some ⟨1954, 1, .on 1, 0, .wall⟩⟩,
    ⟨-28800, .rules Season.california, some ⟨1961, 1, .on 1, 0, .wall⟩⟩,
    ⟨-28800, .fixed 0, some ⟨1976, 1, .on 1, 0, .wall⟩⟩,
    ⟨-28800, .rules Season.unitedStates, some ⟨1996, 1, .on 1, 0, .wall⟩⟩,
    ⟨-28800, .rules Season.mexico, some ⟨2001, 1, .on 1, 0, .wall⟩⟩,
    ⟨-28800, .rules Season.unitedStates, some ⟨2002, 2, .on 20, 0, .wall⟩⟩,
    ⟨-28800, .rules Season.mexico, some ⟨2010, 1, .on 1, 0, .wall⟩⟩,
    ⟨-28800, .rules Season.unitedStates, none⟩]

def toronto : List Era :=
  [ ⟨-19052, .fixed 0, some ⟨1895, 1, .on 1, 0, .wall⟩⟩,
    ⟨-18000, .rules Season.canada, some ⟨1919, 1, .on 1, 0, .wall⟩⟩,
    ⟨-18000, .rules Season.toronto, some ⟨1942, 2, .on 9, 7200, .standard⟩⟩,
    ⟨-18000, .rules Season.canada, some ⟨1946, 1, .on 1, 0, .wall⟩⟩,
    ⟨-18000, .rules Season.toronto, some ⟨1974, 1, .on 1, 0, .wall⟩⟩,
    ⟨-18000, .rules Season.canada, none⟩]

def vancouver : List Era :=
  [ ⟨-29548, .fixed 0, some ⟨1884, 1, .on 1, 0, .wall⟩⟩,
    ⟨-28800, .rules Season.vancouver, some ⟨1987, 1, .on 1, 0, .wall⟩⟩,
    ⟨-28800, .rules Season.canada, none⟩]

def whitehorse : List Era :=
  [ ⟨-32412, .fixed 0, some ⟨1900, 8, .on 20, 0, .wall⟩⟩,
    ⟨-32400, .rules Season.northwestTerritories, some ⟨1965, 1, .on 1, 0, .wall⟩⟩,
    ⟨-32400, .rules Season.yukon, some ⟨1966, 2, .on 27, 0, .wall⟩⟩,
    ⟨-28800, .fixed 0, some ⟨1980, 1, .on 1, 0, .wall⟩⟩,
    ⟨-28800, .rules Season.canada, some ⟨2020, 11, .on 1, 0, .wall⟩⟩,
    ⟨-25200, .fixed 0, none⟩]

def winnipeg : List Era :=
  [ ⟨-23316, .fixed 0, some ⟨1887, 7, .on 16, 0, .wall⟩⟩,
    ⟨-21600, .rules Season.winnipeg, some ⟨2006, 1, .on 1, 0, .wall⟩⟩,
    ⟨-21600, .rules Season.canada, none⟩]

def yakutat : List Era :=
  [ ⟨52865, .fixed 0, some ⟨1867, 10, .on 19, 54738, .wall⟩⟩,
    ⟨-33535, .fixed 0, some ⟨1900, 8, .on 20, 43200, .wall⟩⟩,
    ⟨-32400, .fixed 0, some ⟨1942, 1, .on 1, 0, .wall⟩⟩,
    ⟨-32400, .rules Season.unitedStates, some ⟨1946, 1, .on 1, 0, .wall⟩⟩,
    ⟨-32400, .fixed 0, some ⟨1969, 1, .on 1, 0, .wall⟩⟩,
    ⟨-32400, .rules Season.unitedStates, some ⟨1983, 11, .on 30, 0, .wall⟩⟩,
    ⟨-32400, .rules Season.unitedStates, none⟩]

def all : List (String × List Era) :=
  [ ("America/Adak", adak),
    ("America/Anchorage", anchorage),
    ("America/Araguaina", araguaina),
    ("America/Argentina/Buenos_Aires", argentinaBuenosAires),
    ("America/Argentina/Catamarca", argentinaCatamarca),
    ("America/Argentina/Cordoba", argentinaCordoba),
    ("America/Argentina/Jujuy", argentinaJujuy),
    ("America/Argentina/La_Rioja", argentinaLaRioja),
    ("America/Argentina/Mendoza", argentinaMendoza),
    ("America/Argentina/Rio_Gallegos", argentinaRioGallegos),
    ("America/Argentina/Salta", argentinaSalta),
    ("America/Argentina/San_Juan", argentinaSanJuan),
    ("America/Argentina/San_Luis", argentinaSanLuis),
    ("America/Argentina/Tucuman", argentinaTucuman),
    ("America/Argentina/Ushuaia", argentinaUshuaia),
    ("America/Asuncion", asuncion),
    ("America/Bahia", bahia),
    ("America/Bahia_Banderas", bahiaBanderas),
    ("America/Barbados", barbados),
    ("America/Belem", belem),
    ("America/Belize", belize),
    ("America/Boa_Vista", boaVista),
    ("America/Bogota", bogota),
    ("America/Boise", boise),
    ("America/Cambridge_Bay", cambridgeBay),
    ("America/Campo_Grande", campoGrande),
    ("America/Cancun", cancun),
    ("America/Caracas", caracas),
    ("America/Cayenne", cayenne),
    ("America/Chicago", chicago),
    ("America/Chihuahua", chihuahua),
    ("America/Ciudad_Juarez", ciudadJuarez),
    ("America/Costa_Rica", costaRica),
    ("America/Coyhaique", coyhaique),
    ("America/Cuiaba", cuiaba),
    ("America/Danmarkshavn", danmarkshavn),
    ("America/Dawson", dawson),
    ("America/Dawson_Creek", dawsonCreek),
    ("America/Denver", denver),
    ("America/Detroit", detroit),
    ("America/Edmonton", edmonton),
    ("America/Eirunepe", eirunepe),
    ("America/El_Salvador", elSalvador),
    ("America/Fort_Nelson", fortNelson),
    ("America/Fortaleza", fortaleza),
    ("America/Glace_Bay", glaceBay),
    ("America/Goose_Bay", gooseBay),
    ("America/Grand_Turk", grandTurk),
    ("America/Guatemala", guatemala),
    ("America/Guayaquil", guayaquil),
    ("America/Guyana", guyana),
    ("America/Halifax", halifax),
    ("America/Havana", havana),
    ("America/Hermosillo", hermosillo),
    ("America/Indiana/Indianapolis", indianaIndianapolis),
    ("America/Indiana/Knox", indianaKnox),
    ("America/Indiana/Marengo", indianaMarengo),
    ("America/Indiana/Petersburg", indianaPetersburg),
    ("America/Indiana/Tell_City", indianaTellCity),
    ("America/Indiana/Vevay", indianaVevay),
    ("America/Indiana/Vincennes", indianaVincennes),
    ("America/Indiana/Winamac", indianaWinamac),
    ("America/Inuvik", inuvik),
    ("America/Iqaluit", iqaluit),
    ("America/Jamaica", jamaica),
    ("America/Juneau", juneau),
    ("America/Kentucky/Louisville", kentuckyLouisville),
    ("America/Kentucky/Monticello", kentuckyMonticello),
    ("America/La_Paz", laPaz),
    ("America/Lima", lima),
    ("America/Los_Angeles", losAngeles),
    ("America/Maceio", maceio),
    ("America/Managua", managua),
    ("America/Manaus", manaus),
    ("America/Martinique", martinique),
    ("America/Matamoros", matamoros),
    ("America/Mazatlan", mazatlan),
    ("America/Menominee", menominee),
    ("America/Merida", merida),
    ("America/Metlakatla", metlakatla),
    ("America/Mexico_City", mexicoCity),
    ("America/Miquelon", miquelon),
    ("America/Moncton", moncton),
    ("America/Monterrey", monterrey),
    ("America/Montevideo", montevideo),
    ("America/New_York", newYork),
    ("America/Nome", nome),
    ("America/Noronha", noronha),
    ("America/North_Dakota/Beulah", northDakotaBeulah),
    ("America/North_Dakota/Center", northDakotaCenter),
    ("America/North_Dakota/New_Salem", northDakotaNewSalem),
    ("America/Nuuk", nuuk),
    ("America/Ojinaga", ojinaga),
    ("America/Panama", panama),
    ("America/Paramaribo", paramaribo),
    ("America/Phoenix", phoenix),
    ("America/Port-au-Prince", portAuPrince),
    ("America/Porto_Velho", portoVelho),
    ("America/Puerto_Rico", puertoRico),
    ("America/Punta_Arenas", puntaArenas),
    ("America/Rankin_Inlet", rankinInlet),
    ("America/Recife", recife),
    ("America/Regina", regina),
    ("America/Resolute", resolute),
    ("America/Rio_Branco", rioBranco),
    ("America/Santarem", santarem),
    ("America/Santiago", santiago),
    ("America/Santo_Domingo", santoDomingo),
    ("America/Sao_Paulo", saoPaulo),
    ("America/Scoresbysund", scoresbysund),
    ("America/Sitka", sitka),
    ("America/St_Johns", stJohns),
    ("America/Swift_Current", swiftCurrent),
    ("America/Tegucigalpa", tegucigalpa),
    ("America/Thule", thule),
    ("America/Tijuana", tijuana),
    ("America/Toronto", toronto),
    ("America/Vancouver", vancouver),
    ("America/Whitehorse", whitehorse),
    ("America/Winnipeg", winnipeg),
    ("America/Yakutat", yakutat)]

end Analytics.Zone.Region.America
