import Analytics.Zone.Season

/-!
Seasonal clock changes of Asia.
-/

namespace Analytics.Zone.Season

def armenia : List SeasonRule :=
  [ ⟨2011, 2011, 3, .last 0, 7200, .standard, 3600⟩,
    ⟨2011, 2011, 10, .last 0, 7200, .standard, 0⟩]

def azerbaijan : List SeasonRule :=
  [ ⟨1997, 2015, 3, .last 0, 14400, .wall, 3600⟩,
    ⟨1997, 2015, 10, .last 0, 18000, .wall, 0⟩]

def bangladesh : List SeasonRule :=
  [ ⟨2009, 2009, 6, .on 19, 82800, .wall, 3600⟩,
    ⟨2009, 2009, 12, .on 31, 86400, .wall, 0⟩]

def shanghai : List SeasonRule :=
  [ ⟨1919, 1919, 4, .on 12, 86400, .wall, 3600⟩,
    ⟨1919, 1919, 9, .on 30, 86400, .wall, 0⟩,
    ⟨1940, 1940, 6, .on 1, 0, .wall, 3600⟩,
    ⟨1940, 1940, 10, .on 12, 86400, .wall, 0⟩,
    ⟨1941, 1941, 3, .on 15, 0, .wall, 3600⟩,
    ⟨1941, 1941, 11, .on 1, 86400, .wall, 0⟩,
    ⟨1942, 1942, 1, .on 31, 0, .wall, 3600⟩,
    ⟨1945, 1945, 9, .on 1, 86400, .wall, 0⟩,
    ⟨1946, 1946, 5, .on 15, 0, .wall, 3600⟩,
    ⟨1946, 1946, 9, .on 30, 86400, .wall, 0⟩,
    ⟨1947, 1947, 4, .on 15, 0, .wall, 3600⟩,
    ⟨1947, 1947, 10, .on 31, 86400, .wall, 0⟩,
    ⟨1948, 1949, 5, .on 1, 0, .wall, 3600⟩,
    ⟨1948, 1949, 9, .on 30, 86400, .wall, 0⟩]

def china : List SeasonRule :=
  [ ⟨1986, 1986, 5, .on 4, 7200, .wall, 3600⟩,
    ⟨1986, 1991, 9, .onOrAfter 0 11, 7200, .wall, 0⟩,
    ⟨1987, 1991, 4, .onOrAfter 0 11, 7200, .wall, 3600⟩]

def hongKong : List SeasonRule :=
  [ ⟨1946, 1946, 4, .on 21, 0, .wall, 3600⟩,
    ⟨1946, 1946, 12, .on 1, 12600, .standard, 0⟩,
    ⟨1947, 1947, 4, .on 13, 12600, .standard, 3600⟩,
    ⟨1947, 1947, 11, .on 30, 12600, .standard, 0⟩,
    ⟨1948, 1948, 5, .on 2, 12600, .standard, 3600⟩,
    ⟨1948, 1952, 10, .onOrAfter 0 28, 12600, .standard, 0⟩,
    ⟨1949, 1953, 4, .onOrAfter 0 1, 12600, .wall, 3600⟩,
    ⟨1953, 1964, 10, .onOrAfter 0 31, 12600, .wall, 0⟩,
    ⟨1954, 1964, 3, .onOrAfter 0 18, 12600, .wall, 3600⟩,
    ⟨1965, 1976, 4, .onOrAfter 0 16, 12600, .wall, 3600⟩,
    ⟨1965, 1976, 10, .onOrAfter 0 16, 12600, .wall, 0⟩,
    ⟨1973, 1973, 12, .on 30, 12600, .wall, 3600⟩,
    ⟨1979, 1979, 5, .on 13, 12600, .wall, 3600⟩,
    ⟨1979, 1979, 10, .on 21, 12600, .wall, 0⟩]

def taiwan : List SeasonRule :=
  [ ⟨1946, 1946, 5, .on 15, 0, .wall, 3600⟩,
    ⟨1946, 1946, 10, .on 1, 0, .wall, 0⟩,
    ⟨1947, 1947, 4, .on 15, 0, .wall, 3600⟩,
    ⟨1947, 1947, 11, .on 1, 0, .wall, 0⟩,
    ⟨1948, 1951, 5, .on 1, 0, .wall, 3600⟩,
    ⟨1948, 1951, 10, .on 1, 0, .wall, 0⟩,
    ⟨1952, 1952, 3, .on 1, 0, .wall, 3600⟩,
    ⟨1952, 1954, 11, .on 1, 0, .wall, 0⟩,
    ⟨1953, 1959, 4, .on 1, 0, .wall, 3600⟩,
    ⟨1955, 1961, 10, .on 1, 0, .wall, 0⟩,
    ⟨1960, 1961, 6, .on 1, 0, .wall, 3600⟩,
    ⟨1974, 1975, 4, .on 1, 0, .wall, 3600⟩,
    ⟨1974, 1975, 10, .on 1, 0, .wall, 0⟩,
    ⟨1979, 1979, 7, .on 1, 0, .wall, 3600⟩,
    ⟨1979, 1979, 10, .on 1, 0, .wall, 0⟩]

def macau : List SeasonRule :=
  [ ⟨1942, 1943, 4, .on 30, 82800, .wall, 3600⟩,
    ⟨1942, 1942, 11, .on 17, 82800, .wall, 0⟩,
    ⟨1943, 1943, 9, .on 30, 82800, .wall, 0⟩,
    ⟨1946, 1946, 4, .on 30, 82800, .standard, 3600⟩,
    ⟨1946, 1946, 9, .on 30, 82800, .standard, 0⟩,
    ⟨1947, 1947, 4, .on 19, 82800, .standard, 3600⟩,
    ⟨1947, 1947, 11, .on 30, 82800, .standard, 0⟩,
    ⟨1948, 1948, 5, .on 2, 82800, .standard, 3600⟩,
    ⟨1948, 1948, 10, .on 31, 82800, .standard, 0⟩,
    ⟨1949, 1950, 4, .onOrAfter 6 1, 82800, .standard, 3600⟩,
    ⟨1949, 1950, 10, .last 6, 82800, .standard, 0⟩,
    ⟨1951, 1951, 3, .on 31, 82800, .standard, 3600⟩,
    ⟨1951, 1951, 10, .on 28, 82800, .standard, 0⟩,
    ⟨1952, 1953, 4, .onOrAfter 6 1, 82800, .standard, 3600⟩,
    ⟨1952, 1952, 11, .on 1, 82800, .standard, 0⟩,
    ⟨1953, 1954, 10, .last 6, 82800, .standard, 0⟩,
    ⟨1954, 1956, 3, .onOrAfter 6 17, 82800, .standard, 3600⟩,
    ⟨1955, 1955, 11, .on 5, 82800, .standard, 0⟩,
    ⟨1956, 1964, 11, .onOrAfter 0 1, 12600, .wall, 0⟩,
    ⟨1957, 1964, 3, .onOrAfter 0 18, 12600, .wall, 3600⟩,
    ⟨1965, 1973, 4, .onOrAfter 0 16, 12600, .wall, 3600⟩,
    ⟨1965, 1966, 10, .onOrAfter 0 16, 9000, .wall, 0⟩,
    ⟨1967, 1976, 10, .onOrAfter 0 16, 12600, .wall, 0⟩,
    ⟨1973, 1973, 12, .on 30, 12600, .wall, 3600⟩,
    ⟨1975, 1976, 4, .onOrAfter 0 16, 12600, .wall, 3600⟩,
    ⟨1979, 1979, 5, .on 13, 12600, .wall, 3600⟩,
    ⟨1979, 1979, 10, .onOrAfter 0 16, 12600, .wall, 0⟩]

def cyprus : List SeasonRule :=
  [ ⟨1975, 1975, 4, .on 13, 0, .wall, 3600⟩,
    ⟨1975, 1975, 10, .on 12, 0, .wall, 0⟩,
    ⟨1976, 1976, 5, .on 15, 0, .wall, 3600⟩,
    ⟨1976, 1976, 10, .on 11, 0, .wall, 0⟩,
    ⟨1977, 1980, 4, .onOrAfter 0 1, 0, .wall, 3600⟩,
    ⟨1977, 1977, 9, .on 25, 0, .wall, 0⟩,
    ⟨1978, 1978, 10, .on 2, 0, .wall, 0⟩,
    ⟨1979, 1997, 9, .last 0, 0, .wall, 0⟩,
    ⟨1981, 1998, 3, .last 0, 0, .wall, 3600⟩]

def iran : List SeasonRule :=
  [ ⟨1910, 1910, 1, .on 1, 0, .wall, 0⟩,
    ⟨1977, 1977, 3, .on 21, 82800, .wall, 3600⟩,
    ⟨1977, 1977, 10, .on 20, 86400, .wall, 0⟩,
    ⟨1978, 1978, 3, .on 24, 86400, .wall, 3600⟩,
    ⟨1978, 1978, 8, .on 5, 3600, .wall, 0⟩,
    ⟨1979, 1979, 5, .on 26, 86400, .wall, 3600⟩,
    ⟨1979, 1979, 9, .on 18, 86400, .wall, 0⟩,
    ⟨1980, 1980, 3, .on 20, 86400, .wall, 3600⟩,
    ⟨1980, 1980, 9, .on 22, 86400, .wall, 0⟩,
    ⟨1991, 1991, 5, .on 2, 86400, .wall, 3600⟩,
    ⟨1992, 1995, 3, .on 21, 86400, .wall, 3600⟩,
    ⟨1991, 1995, 9, .on 21, 86400, .wall, 0⟩,
    ⟨1996, 1996, 3, .on 20, 86400, .wall, 3600⟩,
    ⟨1996, 1996, 9, .on 20, 86400, .wall, 0⟩,
    ⟨1997, 1999, 3, .on 21, 86400, .wall, 3600⟩,
    ⟨1997, 1999, 9, .on 21, 86400, .wall, 0⟩,
    ⟨2000, 2000, 3, .on 20, 86400, .wall, 3600⟩,
    ⟨2000, 2000, 9, .on 20, 86400, .wall, 0⟩,
    ⟨2001, 2003, 3, .on 21, 86400, .wall, 3600⟩,
    ⟨2001, 2003, 9, .on 21, 86400, .wall, 0⟩,
    ⟨2004, 2004, 3, .on 20, 86400, .wall, 3600⟩,
    ⟨2004, 2004, 9, .on 20, 86400, .wall, 0⟩,
    ⟨2005, 2005, 3, .on 21, 86400, .wall, 3600⟩,
    ⟨2005, 2005, 9, .on 21, 86400, .wall, 0⟩,
    ⟨2008, 2008, 3, .on 20, 86400, .wall, 3600⟩,
    ⟨2008, 2008, 9, .on 20, 86400, .wall, 0⟩,
    ⟨2009, 2011, 3, .on 21, 86400, .wall, 3600⟩,
    ⟨2009, 2011, 9, .on 21, 86400, .wall, 0⟩,
    ⟨2012, 2012, 3, .on 20, 86400, .wall, 3600⟩,
    ⟨2012, 2012, 9, .on 20, 86400, .wall, 0⟩,
    ⟨2013, 2015, 3, .on 21, 86400, .wall, 3600⟩,
    ⟨2013, 2015, 9, .on 21, 86400, .wall, 0⟩,
    ⟨2016, 2016, 3, .on 20, 86400, .wall, 3600⟩,
    ⟨2016, 2016, 9, .on 20, 86400, .wall, 0⟩,
    ⟨2017, 2019, 3, .on 21, 86400, .wall, 3600⟩,
    ⟨2017, 2019, 9, .on 21, 86400, .wall, 0⟩,
    ⟨2020, 2020, 3, .on 20, 86400, .wall, 3600⟩,
    ⟨2020, 2020, 9, .on 20, 86400, .wall, 0⟩,
    ⟨2021, 2022, 3, .on 21, 86400, .wall, 3600⟩,
    ⟨2021, 2022, 9, .on 21, 86400, .wall, 0⟩]

def iraq : List SeasonRule :=
  [ ⟨1982, 1982, 5, .on 1, 0, .wall, 3600⟩,
    ⟨1982, 1984, 10, .on 1, 0, .wall, 0⟩,
    ⟨1983, 1983, 3, .on 31, 0, .wall, 3600⟩,
    ⟨1984, 1985, 4, .on 1, 0, .wall, 3600⟩,
    ⟨1985, 1990, 9, .last 0, 3600, .standard, 0⟩,
    ⟨1986, 1990, 3, .last 0, 3600, .standard, 3600⟩,
    ⟨1991, 2007, 4, .on 1, 10800, .standard, 3600⟩,
    ⟨1991, 2007, 10, .on 1, 10800, .standard, 0⟩]

def israel : List SeasonRule :=
  [ ⟨1940, 1940, 5, .on 31, 86400, .universal, 3600⟩,
    ⟨1940, 1940, 9, .on 30, 86400, .universal, 0⟩,
    ⟨1940, 1940, 11, .on 16, 86400, .universal, 3600⟩,
    ⟨1942, 1946, 10, .on 31, 86400, .universal, 0⟩,
    ⟨1943, 1944, 3, .on 31, 86400, .universal, 3600⟩,
    ⟨1945, 1946, 4, .on 15, 86400, .universal, 3600⟩,
    ⟨1948, 1948, 5, .on 22, 86400, .universal, 7200⟩,
    ⟨1948, 1948, 8, .on 31, 86400, .universal, 3600⟩,
    ⟨1948, 1949, 10, .on 31, 86400, .universal, 0⟩,
    ⟨1949, 1949, 4, .on 30, 86400, .universal, 3600⟩,
    ⟨1950, 1950, 4, .on 15, 86400, .universal, 3600⟩,
    ⟨1950, 1950, 9, .on 14, 86400, .universal, 0⟩,
    ⟨1951, 1951, 3, .on 31, 86400, .universal, 3600⟩,
    ⟨1951, 1951, 11, .on 10, 86400, .universal, 0⟩,
    ⟨1952, 1952, 4, .on 19, 86400, .universal, 3600⟩,
    ⟨1952, 1952, 10, .on 18, 86400, .universal, 0⟩,
    ⟨1953, 1953, 4, .on 11, 86400, .universal, 3600⟩,
    ⟨1953, 1953, 9, .on 12, 86400, .universal, 0⟩,
    ⟨1954, 1954, 6, .on 12, 86400, .universal, 3600⟩,
    ⟨1954, 1954, 9, .on 11, 86400, .universal, 0⟩,
    ⟨1955, 1955, 6, .on 11, 86400, .universal, 3600⟩,
    ⟨1955, 1955, 9, .on 10, 86400, .universal, 0⟩,
    ⟨1956, 1956, 6, .on 2, 86400, .universal, 3600⟩,
    ⟨1956, 1956, 9, .on 29, 86400, .universal, 0⟩,
    ⟨1957, 1957, 4, .on 27, 86400, .universal, 3600⟩,
    ⟨1957, 1957, 9, .on 21, 86400, .universal, 0⟩,
    ⟨1974, 1974, 7, .on 6, 86400, .wall, 3600⟩,
    ⟨1974, 1974, 10, .on 12, 86400, .wall, 0⟩,
    ⟨1975, 1975, 4, .on 19, 86400, .wall, 3600⟩,
    ⟨1975, 1975, 8, .on 30, 86400, .wall, 0⟩,
    ⟨1980, 1980, 8, .on 2, 86400, .standard, 3600⟩,
    ⟨1980, 1980, 9, .on 13, 86400, .standard, 0⟩,
    ⟨1984, 1984, 5, .on 5, 86400, .standard, 3600⟩,
    ⟨1984, 1984, 8, .on 25, 86400, .standard, 0⟩,
    ⟨1985, 1985, 4, .on 13, 86400, .wall, 3600⟩,
    ⟨1985, 1985, 8, .on 31, 86400, .wall, 0⟩,
    ⟨1986, 1986, 5, .on 17, 86400, .wall, 3600⟩,
    ⟨1986, 1986, 9, .on 6, 86400, .wall, 0⟩,
    ⟨1987, 1987, 4, .on 14, 86400, .wall, 3600⟩,
    ⟨1987, 1987, 9, .on 12, 86400, .wall, 0⟩,
    ⟨1988, 1988, 4, .on 9, 86400, .wall, 3600⟩,
    ⟨1988, 1988, 9, .on 3, 86400, .wall, 0⟩,
    ⟨1989, 1989, 4, .on 29, 86400, .wall, 3600⟩,
    ⟨1989, 1989, 9, .on 2, 86400, .wall, 0⟩,
    ⟨1990, 1990, 3, .on 24, 86400, .wall, 3600⟩,
    ⟨1990, 1990, 8, .on 25, 86400, .wall, 0⟩,
    ⟨1991, 1991, 3, .on 23, 86400, .wall, 3600⟩,
    ⟨1991, 1991, 8, .on 31, 86400, .wall, 0⟩,
    ⟨1992, 1992, 3, .on 28, 86400, .wall, 3600⟩,
    ⟨1992, 1992, 9, .on 5, 86400, .wall, 0⟩,
    ⟨1993, 1993, 4, .on 2, 0, .wall, 3600⟩,
    ⟨1993, 1993, 9, .on 5, 0, .wall, 0⟩,
    ⟨1994, 1994, 4, .on 1, 0, .wall, 3600⟩,
    ⟨1994, 1994, 8, .on 28, 0, .wall, 0⟩,
    ⟨1995, 1995, 3, .on 31, 0, .wall, 3600⟩,
    ⟨1995, 1995, 9, .on 3, 0, .wall, 0⟩,
    ⟨1996, 1996, 3, .on 14, 86400, .wall, 3600⟩,
    ⟨1996, 1996, 9, .on 15, 86400, .wall, 0⟩,
    ⟨1997, 1997, 3, .on 20, 86400, .wall, 3600⟩,
    ⟨1997, 1997, 9, .on 13, 86400, .wall, 0⟩,
    ⟨1998, 1998, 3, .on 20, 0, .wall, 3600⟩,
    ⟨1998, 1998, 9, .on 6, 0, .wall, 0⟩,
    ⟨1999, 1999, 4, .on 2, 7200, .wall, 3600⟩,
    ⟨1999, 1999, 9, .on 3, 7200, .wall, 0⟩,
    ⟨2000, 2000, 4, .on 14, 7200, .wall, 3600⟩,
    ⟨2000, 2000, 10, .on 6, 3600, .wall, 0⟩,
    ⟨2001, 2001, 4, .on 9, 3600, .wall, 3600⟩,
    ⟨2001, 2001, 9, .on 24, 3600, .wall, 0⟩,
    ⟨2002, 2002, 3, .on 29, 3600, .wall, 3600⟩,
    ⟨2002, 2002, 10, .on 7, 3600, .wall, 0⟩,
    ⟨2003, 2003, 3, .on 28, 3600, .wall, 3600⟩,
    ⟨2003, 2003, 10, .on 3, 3600, .wall, 0⟩,
    ⟨2004, 2004, 4, .on 7, 3600, .wall, 3600⟩,
    ⟨2004, 2004, 9, .on 22, 3600, .wall, 0⟩,
    ⟨2005, 2012, 4, .onOrBefore 5 1, 7200, .wall, 3600⟩,
    ⟨2005, 2005, 10, .on 9, 7200, .wall, 0⟩,
    ⟨2006, 2006, 10, .on 1, 7200, .wall, 0⟩,
    ⟨2007, 2007, 9, .on 16, 7200, .wall, 0⟩,
    ⟨2008, 2008, 10, .on 5, 7200, .wall, 0⟩,
    ⟨2009, 2009, 9, .on 27, 7200, .wall, 0⟩,
    ⟨2010, 2010, 9, .on 12, 7200, .wall, 0⟩,
    ⟨2011, 2011, 10, .on 2, 7200, .wall, 0⟩,
    ⟨2012, 2012, 9, .on 23, 7200, .wall, 0⟩,
    ⟨2013, 9999, 3, .onOrAfter 5 23, 7200, .wall, 3600⟩,
    ⟨2013, 9999, 10, .last 0, 7200, .wall, 0⟩]

def japan : List SeasonRule :=
  [ ⟨1948, 1948, 5, .onOrAfter 6 1, 86400, .wall, 3600⟩,
    ⟨1948, 1951, 9, .onOrAfter 0 9, 3600, .wall, 0⟩,
    ⟨1949, 1949, 4, .onOrAfter 6 1, 86400, .wall, 3600⟩,
    ⟨1950, 1951, 5, .onOrAfter 6 1, 86400, .wall, 3600⟩]

def jordan : List SeasonRule :=
  [ ⟨1973, 1973, 6, .on 6, 0, .wall, 3600⟩,
    ⟨1973, 1975, 10, .on 1, 0, .wall, 0⟩,
    ⟨1974, 1977, 5, .on 1, 0, .wall, 3600⟩,
    ⟨1976, 1976, 11, .on 1, 0, .wall, 0⟩,
    ⟨1977, 1977, 10, .on 1, 0, .wall, 0⟩,
    ⟨1978, 1978, 4, .on 30, 0, .wall, 3600⟩,
    ⟨1978, 1978, 9, .on 30, 0, .wall, 0⟩,
    ⟨1985, 1985, 4, .on 1, 0, .wall, 3600⟩,
    ⟨1985, 1985, 10, .on 1, 0, .wall, 0⟩,
    ⟨1986, 1988, 4, .onOrAfter 5 1, 0, .wall, 3600⟩,
    ⟨1986, 1990, 10, .onOrAfter 5 1, 0, .wall, 0⟩,
    ⟨1989, 1989, 5, .on 8, 0, .wall, 3600⟩,
    ⟨1990, 1990, 4, .on 27, 0, .wall, 3600⟩,
    ⟨1991, 1991, 4, .on 17, 0, .wall, 3600⟩,
    ⟨1991, 1991, 9, .on 27, 0, .wall, 0⟩,
    ⟨1992, 1992, 4, .on 10, 0, .wall, 3600⟩,
    ⟨1992, 1993, 10, .onOrAfter 5 1, 0, .wall, 0⟩,
    ⟨1993, 1998, 4, .onOrAfter 5 1, 0, .wall, 3600⟩,
    ⟨1994, 1994, 9, .onOrAfter 5 15, 0, .wall, 0⟩,
    ⟨1995, 1998, 9, .onOrAfter 5 15, 0, .standard, 0⟩,
    ⟨1999, 1999, 7, .on 1, 0, .standard, 3600⟩,
    ⟨1999, 2002, 9, .last 5, 0, .standard, 0⟩,
    ⟨2000, 2001, 3, .last 4, 0, .standard, 3600⟩,
    ⟨2002, 2012, 3, .last 4, 86400, .wall, 3600⟩,
    ⟨2003, 2003, 10, .on 24, 0, .standard, 0⟩,
    ⟨2004, 2004, 10, .on 15, 0, .standard, 0⟩,
    ⟨2005, 2005, 9, .last 5, 0, .standard, 0⟩,
    ⟨2006, 2011, 10, .last 5, 0, .standard, 0⟩,
    ⟨2013, 2013, 12, .on 20, 0, .wall, 0⟩,
    ⟨2014, 2021, 3, .last 4, 86400, .wall, 3600⟩,
    ⟨2014, 2022, 10, .last 5, 0, .standard, 0⟩,
    ⟨2022, 2022, 2, .last 4, 86400, .wall, 3600⟩]

def kyrgyzstan : List SeasonRule :=
  [ ⟨1992, 1996, 4, .onOrAfter 0 7, 0, .standard, 3600⟩,
    ⟨1992, 1996, 9, .last 0, 0, .wall, 0⟩,
    ⟨1997, 2005, 3, .last 0, 9000, .wall, 3600⟩,
    ⟨1997, 2004, 10, .last 0, 9000, .wall, 0⟩]

def korea : List SeasonRule :=
  [ ⟨1948, 1948, 6, .on 1, 0, .wall, 3600⟩,
    ⟨1948, 1948, 9, .on 12, 86400, .wall, 0⟩,
    ⟨1949, 1949, 4, .on 3, 0, .wall, 3600⟩,
    ⟨1949, 1951, 9, .onOrAfter 6 7, 86400, .wall, 0⟩,
    ⟨1950, 1950, 4, .on 1, 0, .wall, 3600⟩,
    ⟨1951, 1951, 5, .on 6, 0, .wall, 3600⟩,
    ⟨1955, 1955, 5, .on 5, 0, .wall, 3600⟩,
    ⟨1955, 1955, 9, .on 8, 86400, .wall, 0⟩,
    ⟨1956, 1956, 5, .on 20, 0, .wall, 3600⟩,
    ⟨1956, 1956, 9, .on 29, 86400, .wall, 0⟩,
    ⟨1957, 1960, 5, .onOrAfter 0 1, 0, .wall, 3600⟩,
    ⟨1957, 1960, 9, .onOrAfter 6 17, 86400, .wall, 0⟩,
    ⟨1987, 1988, 5, .onOrAfter 0 8, 7200, .wall, 3600⟩,
    ⟨1987, 1988, 10, .onOrAfter 0 8, 10800, .wall, 0⟩]

def lebanon : List SeasonRule :=
  [ ⟨1920, 1920, 3, .on 28, 0, .wall, 3600⟩,
    ⟨1920, 1920, 10, .on 25, 0, .wall, 0⟩,
    ⟨1921, 1921, 4, .on 3, 0, .wall, 3600⟩,
    ⟨1921, 1921, 10, .on 3, 0, .wall, 0⟩,
    ⟨1922, 1922, 3, .on 26, 0, .wall, 3600⟩,
    ⟨1922, 1922, 10, .on 8, 0, .wall, 0⟩,
    ⟨1923, 1923, 4, .on 22, 0, .wall, 3600⟩,
    ⟨1923, 1923, 9, .on 16, 0, .wall, 0⟩,
    ⟨1957, 1961, 5, .on 1, 0, .wall, 3600⟩,
    ⟨1957, 1961, 10, .on 1, 0, .wall, 0⟩,
    ⟨1972, 1972, 6, .on 22, 0, .wall, 3600⟩,
    ⟨1972, 1977, 10, .on 1, 0, .wall, 0⟩,
    ⟨1973, 1977, 5, .on 1, 0, .wall, 3600⟩,
    ⟨1978, 1978, 4, .on 30, 0, .wall, 3600⟩,
    ⟨1978, 1978, 9, .on 30, 0, .wall, 0⟩,
    ⟨1984, 1987, 5, .on 1, 0, .wall, 3600⟩,
    ⟨1984, 1991, 10, .on 16, 0, .wall, 0⟩,
    ⟨1988, 1988, 6, .on 1, 0, .wall, 3600⟩,
    ⟨1989, 1989, 5, .on 10, 0, .wall, 3600⟩,
    ⟨1990, 1992, 5, .on 1, 0, .wall, 3600⟩,
    ⟨1992, 1992, 10, .on 4, 0, .wall, 0⟩,
    ⟨1993, 9999, 3, .last 0, 0, .wall, 3600⟩,
    ⟨1993, 1998, 9, .last 0, 0, .wall, 0⟩,
    ⟨1999, 9999, 10, .last 0, 0, .wall, 0⟩]

def borneo : List SeasonRule :=
  [ ⟨1935, 1941, 9, .on 14, 0, .wall, 1200⟩,
    ⟨1935, 1941, 12, .on 14, 0, .wall, 0⟩]

def mongolia : List SeasonRule :=
  [ ⟨1983, 1984, 4, .on 1, 0, .wall, 3600⟩,
    ⟨1983, 1983, 10, .on 1, 0, .wall, 0⟩,
    ⟨1985, 1998, 3, .last 0, 0, .wall, 3600⟩,
    ⟨1984, 1998, 9, .last 0, 0, .wall, 0⟩,
    ⟨2001, 2001, 4, .last 6, 7200, .wall, 3600⟩,
    ⟨2001, 2006, 9, .last 6, 7200, .wall, 0⟩,
    ⟨2002, 2006, 3, .last 6, 7200, .wall, 3600⟩,
    ⟨2015, 2016, 3, .last 6, 7200, .wall, 3600⟩,
    ⟨2015, 2016, 9, .last 6, 0, .wall, 0⟩]

def pakistan : List SeasonRule :=
  [ ⟨2002, 2002, 4, .onOrAfter 0 2, 0, .wall, 3600⟩,
    ⟨2002, 2002, 10, .onOrAfter 0 2, 0, .wall, 0⟩,
    ⟨2008, 2008, 6, .on 1, 0, .wall, 3600⟩,
    ⟨2008, 2009, 11, .on 1, 0, .wall, 0⟩,
    ⟨2009, 2009, 4, .on 15, 0, .wall, 3600⟩]

def palestine : List SeasonRule :=
  [ ⟨1999, 2005, 4, .onOrAfter 5 15, 0, .wall, 3600⟩,
    ⟨1999, 2003, 10, .onOrAfter 5 15, 0, .wall, 0⟩,
    ⟨2004, 2004, 10, .on 1, 3600, .wall, 0⟩,
    ⟨2005, 2005, 10, .on 4, 7200, .wall, 0⟩,
    ⟨2006, 2007, 4, .on 1, 0, .wall, 3600⟩,
    ⟨2006, 2006, 9, .on 22, 0, .wall, 0⟩,
    ⟨2007, 2007, 9, .on 13, 7200, .wall, 0⟩,
    ⟨2008, 2009, 3, .last 5, 0, .wall, 3600⟩,
    ⟨2008, 2008, 9, .on 1, 0, .wall, 0⟩,
    ⟨2009, 2009, 9, .on 4, 3600, .wall, 0⟩,
    ⟨2010, 2010, 3, .on 26, 0, .wall, 3600⟩,
    ⟨2010, 2010, 8, .on 11, 0, .wall, 0⟩,
    ⟨2011, 2011, 4, .on 1, 60, .wall, 3600⟩,
    ⟨2011, 2011, 8, .on 1, 0, .wall, 0⟩,
    ⟨2011, 2011, 8, .on 30, 0, .wall, 3600⟩,
    ⟨2011, 2011, 9, .on 30, 0, .wall, 0⟩,
    ⟨2012, 2014, 3, .last 4, 86400, .wall, 3600⟩,
    ⟨2012, 2012, 9, .on 21, 3600, .wall, 0⟩,
    ⟨2013, 2013, 9, .on 27, 0, .wall, 0⟩,
    ⟨2014, 2014, 10, .on 24, 0, .wall, 0⟩,
    ⟨2015, 2015, 3, .on 28, 0, .wall, 3600⟩,
    ⟨2015, 2015, 10, .on 23, 3600, .wall, 0⟩,
    ⟨2016, 2018, 3, .onOrBefore 6 30, 3600, .wall, 3600⟩,
    ⟨2016, 2018, 10, .onOrBefore 6 30, 3600, .wall, 0⟩,
    ⟨2019, 2019, 3, .on 29, 0, .wall, 3600⟩,
    ⟨2019, 2019, 10, .onOrBefore 6 30, 0, .wall, 0⟩,
    ⟨2020, 2021, 3, .onOrBefore 6 30, 0, .wall, 3600⟩,
    ⟨2020, 2020, 10, .on 24, 3600, .wall, 0⟩,
    ⟨2021, 2021, 10, .on 29, 3600, .wall, 0⟩,
    ⟨2022, 2022, 3, .on 27, 0, .wall, 3600⟩,
    ⟨2022, 2035, 10, .onOrBefore 6 30, 7200, .wall, 0⟩,
    ⟨2023, 2023, 4, .on 29, 7200, .wall, 3600⟩,
    ⟨2024, 2024, 4, .on 20, 7200, .wall, 3600⟩,
    ⟨2025, 2025, 4, .on 12, 7200, .wall, 3600⟩,
    ⟨2026, 2054, 3, .onOrBefore 6 30, 7200, .wall, 3600⟩,
    ⟨2036, 2036, 10, .on 18, 7200, .wall, 0⟩,
    ⟨2037, 2037, 10, .on 10, 7200, .wall, 0⟩,
    ⟨2038, 2038, 9, .on 25, 7200, .wall, 0⟩,
    ⟨2039, 2039, 9, .on 17, 7200, .wall, 0⟩,
    ⟨2040, 2040, 9, .on 1, 7200, .wall, 0⟩,
    ⟨2040, 2040, 10, .on 20, 7200, .wall, 3600⟩,
    ⟨2040, 2067, 10, .onOrBefore 6 30, 7200, .wall, 0⟩,
    ⟨2041, 2041, 8, .on 24, 7200, .wall, 0⟩,
    ⟨2041, 2041, 10, .on 5, 7200, .wall, 3600⟩,
    ⟨2042, 2042, 8, .on 16, 7200, .wall, 0⟩,
    ⟨2042, 2042, 9, .on 27, 7200, .wall, 3600⟩,
    ⟨2043, 2043, 8, .on 1, 7200, .wall, 0⟩,
    ⟨2043, 2043, 9, .on 19, 7200, .wall, 3600⟩,
    ⟨2044, 2044, 7, .on 23, 7200, .wall, 0⟩,
    ⟨2044, 2044, 9, .on 3, 7200, .wall, 3600⟩,
    ⟨2045, 2045, 7, .on 15, 7200, .wall, 0⟩,
    ⟨2045, 2045, 8, .on 26, 7200, .wall, 3600⟩,
    ⟨2046, 2046, 6, .on 30, 7200, .wall, 0⟩,
    ⟨2046, 2046, 8, .on 18, 7200, .wall, 3600⟩,
    ⟨2047, 2047, 6, .on 22, 7200, .wall, 0⟩,
    ⟨2047, 2047, 8, .on 3, 7200, .wall, 3600⟩,
    ⟨2048, 2048, 6, .on 6, 7200, .wall, 0⟩,
    ⟨2048, 2048, 7, .on 25, 7200, .wall, 3600⟩,
    ⟨2049, 2049, 5, .on 29, 7200, .wall, 0⟩,
    ⟨2049, 2049, 7, .on 10, 7200, .wall, 3600⟩,
    ⟨2050, 2050, 5, .on 21, 7200, .wall, 0⟩,
    ⟨2050, 2050, 7, .on 2, 7200, .wall, 3600⟩,
    ⟨2051, 2051, 5, .on 6, 7200, .wall, 0⟩,
    ⟨2051, 2051, 6, .on 24, 7200, .wall, 3600⟩,
    ⟨2052, 2052, 4, .on 27, 7200, .wall, 0⟩,
    ⟨2052, 2052, 6, .on 8, 7200, .wall, 3600⟩,
    ⟨2053, 2053, 4, .on 12, 7200, .wall, 0⟩,
    ⟨2053, 2053, 5, .on 31, 7200, .wall, 3600⟩,
    ⟨2054, 2054, 4, .on 4, 7200, .wall, 0⟩,
    ⟨2054, 2054, 5, .on 23, 7200, .wall, 3600⟩,
    ⟨2055, 2055, 5, .on 8, 7200, .wall, 3600⟩,
    ⟨2056, 2056, 4, .on 29, 7200, .wall, 3600⟩,
    ⟨2057, 2057, 4, .on 14, 7200, .wall, 3600⟩,
    ⟨2058, 2058, 4, .on 6, 7200, .wall, 3600⟩,
    ⟨2059, 9999, 3, .onOrBefore 6 30, 7200, .wall, 3600⟩,
    ⟨2068, 2068, 10, .on 20, 7200, .wall, 0⟩,
    ⟨2069, 2069, 10, .on 12, 7200, .wall, 0⟩,
    ⟨2070, 2070, 10, .on 4, 7200, .wall, 0⟩,
    ⟨2071, 2071, 9, .on 19, 7200, .wall, 0⟩,
    ⟨2072, 2072, 9, .on 10, 7200, .wall, 0⟩,
    ⟨2072, 2072, 10, .on 22, 7200, .wall, 3600⟩,
    ⟨2072, 9999, 10, .onOrBefore 6 30, 7200, .wall, 0⟩,
    ⟨2073, 2073, 9, .on 2, 7200, .wall, 0⟩,
    ⟨2073, 2073, 10, .on 14, 7200, .wall, 3600⟩,
    ⟨2074, 2074, 8, .on 18, 7200, .wall, 0⟩,
    ⟨2074, 2074, 10, .on 6, 7200, .wall, 3600⟩,
    ⟨2075, 2075, 8, .on 10, 7200, .wall, 0⟩,
    ⟨2075, 2075, 9, .on 21, 7200, .wall, 3600⟩,
    ⟨2076, 2076, 7, .on 25, 7200, .wall, 0⟩,
    ⟨2076, 2076, 9, .on 12, 7200, .wall, 3600⟩,
    ⟨2077, 2077, 7, .on 17, 7200, .wall, 0⟩,
    ⟨2077, 2077, 9, .on 4, 7200, .wall, 3600⟩,
    ⟨2078, 2078, 7, .on 9, 7200, .wall, 0⟩,
    ⟨2078, 2078, 8, .on 20, 7200, .wall, 3600⟩,
    ⟨2079, 2079, 6, .on 24, 7200, .wall, 0⟩,
    ⟨2079, 2079, 8, .on 12, 7200, .wall, 3600⟩,
    ⟨2080, 2080, 6, .on 15, 7200, .wall, 0⟩,
    ⟨2080, 2080, 7, .on 27, 7200, .wall, 3600⟩,
    ⟨2081, 2081, 6, .on 7, 7200, .wall, 0⟩,
    ⟨2081, 2081, 7, .on 19, 7200, .wall, 3600⟩,
    ⟨2082, 2082, 5, .on 23, 7200, .wall, 0⟩,
    ⟨2082, 2082, 7, .on 11, 7200, .wall, 3600⟩,
    ⟨2083, 2083, 5, .on 15, 7200, .wall, 0⟩,
    ⟨2083, 2083, 6, .on 26, 7200, .wall, 3600⟩,
    ⟨2084, 2084, 4, .on 29, 7200, .wall, 0⟩,
    ⟨2084, 2084, 6, .on 17, 7200, .wall, 3600⟩,
    ⟨2085, 2085, 4, .on 21, 7200, .wall, 0⟩,
    ⟨2085, 2085, 6, .on 9, 7200, .wall, 3600⟩,
    ⟨2086, 2086, 4, .on 13, 7200, .wall, 0⟩,
    ⟨2086, 2086, 5, .on 25, 7200, .wall, 3600⟩]

def philippines : List SeasonRule :=
  [ ⟨1936, 1936, 10, .on 31, 86400, .wall, 3600⟩,
    ⟨1937, 1937, 1, .on 15, 86400, .wall, 0⟩,
    ⟨1941, 1941, 12, .on 15, 86400, .wall, 3600⟩,
    ⟨1945, 1945, 11, .on 30, 86400, .wall, 0⟩,
    ⟨1954, 1954, 4, .on 11, 86400, .wall, 3600⟩,
    ⟨1954, 1954, 6, .on 4, 86400, .wall, 0⟩,
    ⟨1977, 1977, 3, .on 27, 86400, .wall, 3600⟩,
    ⟨1977, 1977, 9, .on 21, 86400, .wall, 0⟩,
    ⟨1990, 1990, 5, .on 21, 0, .wall, 3600⟩,
    ⟨1990, 1990, 7, .on 28, 86400, .wall, 0⟩]

def syria : List SeasonRule :=
  [ ⟨1920, 1923, 4, .onOrAfter 0 15, 7200, .wall, 3600⟩,
    ⟨1920, 1923, 10, .onOrAfter 0 1, 7200, .wall, 0⟩,
    ⟨1962, 1962, 4, .on 29, 7200, .wall, 3600⟩,
    ⟨1962, 1962, 10, .on 1, 7200, .wall, 0⟩,
    ⟨1963, 1965, 5, .on 1, 7200, .wall, 3600⟩,
    ⟨1963, 1963, 9, .on 30, 7200, .wall, 0⟩,
    ⟨1964, 1964, 10, .on 1, 7200, .wall, 0⟩,
    ⟨1965, 1965, 9, .on 30, 7200, .wall, 0⟩,
    ⟨1966, 1966, 4, .on 24, 7200, .wall, 3600⟩,
    ⟨1966, 1976, 10, .on 1, 7200, .wall, 0⟩,
    ⟨1967, 1978, 5, .on 1, 7200, .wall, 3600⟩,
    ⟨1977, 1978, 9, .on 1, 7200, .wall, 0⟩,
    ⟨1983, 1984, 4, .on 9, 7200, .wall, 3600⟩,
    ⟨1983, 1984, 10, .on 1, 7200, .wall, 0⟩,
    ⟨1986, 1986, 2, .on 16, 7200, .wall, 3600⟩,
    ⟨1986, 1986, 10, .on 9, 7200, .wall, 0⟩,
    ⟨1987, 1987, 3, .on 1, 7200, .wall, 3600⟩,
    ⟨1987, 1988, 10, .on 31, 7200, .wall, 0⟩,
    ⟨1988, 1988, 3, .on 15, 7200, .wall, 3600⟩,
    ⟨1989, 1989, 3, .on 31, 7200, .wall, 3600⟩,
    ⟨1989, 1989, 10, .on 1, 7200, .wall, 0⟩,
    ⟨1990, 1990, 4, .on 1, 7200, .wall, 3600⟩,
    ⟨1990, 1990, 9, .on 30, 7200, .wall, 0⟩,
    ⟨1991, 1991, 4, .on 1, 0, .wall, 3600⟩,
    ⟨1991, 1992, 10, .on 1, 0, .wall, 0⟩,
    ⟨1992, 1992, 4, .on 8, 0, .wall, 3600⟩,
    ⟨1993, 1993, 3, .on 26, 0, .wall, 3600⟩,
    ⟨1993, 1993, 9, .on 25, 0, .wall, 0⟩,
    ⟨1994, 1996, 4, .on 1, 0, .wall, 3600⟩,
    ⟨1994, 2005, 10, .on 1, 0, .wall, 0⟩,
    ⟨1997, 1998, 3, .last 1, 0, .wall, 3600⟩,
    ⟨1999, 2006, 4, .on 1, 0, .wall, 3600⟩,
    ⟨2006, 2006, 9, .on 22, 0, .wall, 0⟩,
    ⟨2007, 2007, 3, .last 5, 0, .wall, 3600⟩,
    ⟨2007, 2007, 11, .onOrAfter 5 1, 0, .wall, 0⟩,
    ⟨2008, 2008, 4, .onOrAfter 5 1, 0, .wall, 3600⟩,
    ⟨2008, 2008, 11, .on 1, 0, .wall, 0⟩,
    ⟨2009, 2009, 3, .last 5, 0, .wall, 3600⟩,
    ⟨2010, 2011, 4, .onOrAfter 5 1, 0, .wall, 3600⟩,
    ⟨2012, 2022, 3, .last 5, 0, .wall, 3600⟩,
    ⟨2009, 2022, 10, .last 5, 0, .wall, 0⟩]

end Analytics.Zone.Season
